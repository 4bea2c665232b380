import PatternSession.Config
import PatternSession.OneShot
import PatternSession.Recorder
import PatternSession.Regex.Dialect
import PatternSession.Proofs.Operation
import PatternSession.Proofs.Positions
import PatternSession.Proofs.Watching
import PatternSession.Proofs.CompileCache
import PatternSession.Proofs.Decoding
import PatternSession.Proofs.Family
import PatternSession.Proofs.Generations
import PatternSession.Proofs.OptionCodes
import PatternSession.Proofs.Outcomes
import PatternSession.Proofs.Handles
import PatternSession.Proofs.Soundness
import PatternSession.Proofs.HistoryIndependence
import PatternSession.Proofs.Occurrences
import PatternSession.Proofs.Sweep
import PatternSession.Proofs.Found
import PatternSession.Proofs.SingleReplacement
import PatternSession.Proofs.Iteration
import PatternSession.Proofs.Bench
import PatternSession.Proofs.GlobalReplacement
import PatternSession.Proofs.FirstReplacement
import PatternSession.Proofs.Progress
import PatternSession.Proofs.Truncation
import PatternSession.Proofs.Mishaps
import PatternSession.Proofs.Shaken
import PatternSession.Proofs.Recovery
import PatternSession.Proofs.Disposal
import PatternSession.Proofs.Lifecycle
import PatternSession.Proofs.Showing
import PatternSession.Proofs.TemplatePieces
import PatternSession.Proofs.TemplateTokens
import PatternSession.Proofs.TemplateGrammar
import PatternSession.Proofs.TemplateSource
import PatternSession.Proofs.TemplateMeaning
import PatternSession.Proofs.TemplateAppend
import PatternSession.Proofs.ResultChecks
import PatternSession.Proofs.HandleSlot
import PatternSession.Proofs.DecodedTexts
import PatternSession.Proofs.CopySharing
import PatternSession.Proofs.Offsets
import PatternSession.Proofs.RangeChecks
import PatternSession.Proofs.CharacterSlices
import PatternSession.Proofs.SubstitutionLoop
import PatternSession.Proofs.Spellings
import PatternSession.Proofs.PlainLines
import PatternSession.Proofs.SettingsFiles
