import PatternSession.Template

/-!
# The grammar of replacement templates

How the source of a template is cut into tokens, written down without the machine that does it.

**Lexemes** (`Template.Lexeme`). `Lexeme token word rest` says that `word` spells `token` where
`rest` is all that follows it. What follows matters in three places: a run of digits ends where no
digit follows, a dollar stands for itself where nothing follows that it would join, and a brace that
is never closed, or a backslash with nothing to escape, takes the source to its end.

**Readings** (`Template.Reads`). A source reads as a list of tokens when it is cut into their
lexemes, from the left.

**Theorem (`reads_iff`).** `Template.tokens` finds the only reading of a source. One lexeme takes
the machine from between two tokens to between two tokens, with the token in its output
(`Lexeme.tokens_append`), and some lexeme stands at the front of every source but the empty one
(`exists_lexeme`).
-/

namespace PatternSession

namespace Template

/-! ## Lexemes and readings -/

/-- A dollar before this character is no token of its own. -/
def JoinsDollar (c : Char) : Prop := c = '$' ∨ c = '&' ∨ c = '\x7b' ∨ c.isDigit

instance (c : Char) : Decidable (JoinsDollar c) :=
  inferInstanceAs (Decidable (c = '$' ∨ c = '&' ∨ c = '\x7b' ∨ c.isDigit))

/-- The word spells the token where the rest is all that follows it. -/
inductive Lexeme : Token → List Char → List Char → Prop where
  | dollar {rest} : Lexeme (.char '$') ['$', '$'] rest
  | whole {rest} : Lexeme (.index 0) ['$', '&'] rest
  | digits {run rest} : run ≠ [] → (∀ c ∈ run, c.isDigit) → (∀ c ∈ rest.head?, ¬c.isDigit) →
      Lexeme (.digits run) ('$' :: run) rest
  | braced {inside rest} : '\x7d' ∉ inside →
      Lexeme (.braced inside) ('$' :: '\x7b' :: inside ++ ['\x7d']) rest
  | unclosed {inside} : '\x7d' ∉ inside → Lexeme .unclosed ('$' :: '\x7b' :: inside) []
  | lone {rest} : (∀ c ∈ rest.head?, ¬JoinsDollar c) → Lexeme (.char '$') ['$'] rest
  | newline {rest} : Lexeme (.char '\n') ['\\', 'n'] rest
  | tab {rest} : Lexeme (.char '\t') ['\\', 't'] rest
  | carriageReturn {rest} : Lexeme (.char '\r') ['\\', 'r'] rest
  | escapedDigit {c rest} : c.isDigit → c ≠ '0' →
      Lexeme (.index (c.toNat - '0'.toNat)) ['\\', c] rest
  | escaped {c rest} : c ∉ ['n', 't', 'r'] → (c.isDigit → c = '0') →
      Lexeme (.char c) ['\\', c] rest
  | dangling : Lexeme .dangling ['\\'] []
  | itself {c rest} : c ≠ '$' → c ≠ '\\' → Lexeme (.char c) [c] rest

/-- The source, read from the left, is the lexemes of these tokens. -/
inductive Reads : List Char → List Token → Prop where
  | nil : Reads [] []
  | cons {token word rest tokens} : Lexeme token word rest → Reads rest tokens →
      Reads (word ++ rest) (token :: tokens)

/-! ## The machine over one lexeme -/

theorem tokens_cons (r : Reading) (c : Char) (cs : List Char) :
    tokens r (c :: cs) = (r.step c).1 ++ tokens (r.step c).2 cs := rfl

/-- The character that ends a run of digits is read as between two tokens. -/
theorem tokens_run {rest : List Char} (hrest : ∀ c ∈ rest.head?, ¬c.isDigit) (run seen : List Char)
    (hrun : ∀ c ∈ run, c.isDigit) :
    tokens (.run seen) (run ++ rest) = .digits (seen.reverse ++ run) :: tokens .between rest := by
  induction run generalizing seen with
  | nil =>
    cases rest with
    | nil => simp [tokens, Reading.finish]
    | cons c rest =>
      have hc : ¬c.isDigit := hrest c rfl
      simp [tokens_cons, Reading.step, isDigit_eq, hc]
  | cons c run ih =>
    rw [List.forall_mem_cons] at hrun
    rw [List.cons_append, tokens_cons, Reading.step, isDigit_eq, if_pos hrun.1, ih _ hrun.2]
    simp

theorem tokens_brace (rest inside seen : List Char) (hinside : '\x7d' ∉ inside) :
    tokens (.brace seen) (inside ++ rest) = tokens (.brace (inside.reverse ++ seen)) rest := by
  induction inside generalizing seen with
  | nil => rfl
  | cons c inside ih =>
    rw [List.mem_cons, not_or] at hinside
    rw [List.cons_append, tokens_cons, Reading.step, if_neg (Ne.symm hinside.1), ih _ hinside.2]
    simp

theorem tokens_lone {rest : List Char} (hrest : ∀ c ∈ rest.head?, ¬JoinsDollar c) :
    tokens .dollar rest = .char '$' :: tokens .between rest := by
  cases rest with
  | nil => rfl
  | cons c rest =>
    have hc : ¬JoinsDollar c := hrest c rfl
    simp only [JoinsDollar, not_or] at hc
    simp [tokens_cons, Reading.step, isDigit_eq, hc]

theorem tokens_dollar_digits {run rest : List Char} (hne : run ≠ []) (hrun : ∀ c ∈ run, c.isDigit)
    (hrest : ∀ c ∈ rest.head?, ¬c.isDigit) :
    tokens .dollar (run ++ rest) = .digits run :: tokens .between rest := by
  obtain ⟨c, run, rfl⟩ := List.exists_cons_of_ne_nil hne
  rw [List.forall_mem_cons] at hrun
  have hstep : Reading.dollar.step c = ([], .run [c]) := by
    have hc := hrun.1
    have hdollar : c ≠ '$' := by rintro rfl; exact absurd hc (by decide)
    have hwhole : c ≠ '&' := by rintro rfl; exact absurd hc (by decide)
    rw [Reading.step, if_neg hdollar, if_neg hwhole, isDigit_eq, if_pos hc]
  rw [List.cons_append, tokens_cons, hstep, tokens_run hrest run [c] hrun.2]
  rfl

theorem escaped_of_isDigit {c : Char} (hc : c.isDigit) (h0 : c ≠ '0') :
    escaped c = .index (c.toNat - '0'.toNat) := by
  have hn : c ≠ 'n' := by rintro rfl; exact absurd hc (by decide)
  have ht : c ≠ 't' := by rintro rfl; exact absurd hc (by decide)
  have hr : c ≠ 'r' := by rintro rfl; exact absurd hc (by decide)
  rw [escaped, if_neg hn, if_neg ht, if_neg hr, isDigit_eq, if_pos ⟨hc, h0⟩,
    numeral_eq_ofDigitChars (by simpa using hc)]
  simp [Nat.ofDigitChars_cons]

theorem escaped_of_other {c : Char} (hc : c ∉ ['n', 't', 'r']) (h0 : c.isDigit → c = '0') :
    escaped c = .char c := by
  simp only [List.mem_cons, List.not_mem_nil, or_false, not_or] at hc
  rw [escaped, if_neg hc.1, if_neg hc.2.1, if_neg hc.2.2, isDigit_eq,
    if_neg fun h => h.2 (h0 h.1)]

theorem tokens_escape (c : Char) (rest : List Char) :
    tokens .between ('\\' :: c :: rest) = escaped c :: tokens .between rest := rfl

/-- One lexeme: the machine puts out its token and is between two tokens again. -/
theorem Lexeme.tokens_append {token : Token} {word rest : List Char} (h : Lexeme token word rest) :
    tokens .between (word ++ rest) = token :: tokens .between rest := by
  cases h with
  | dollar | whole | newline | tab | carriageReturn | dangling => rfl
  | digits hne hrun hrest => exact tokens_dollar_digits hne hrun hrest
  | @braced inside _ h =>
    calc tokens .between ('$' :: '\x7b' :: inside ++ ['\x7d'] ++ rest)
        = tokens (.brace []) (inside ++ '\x7d' :: rest) := by
          rw [List.append_assoc]; rfl
      _ = .braced inside :: tokens .between rest := by
          rw [tokens_brace _ _ _ h, tokens_cons, Reading.step, if_pos rfl]
          simp
  | @unclosed inside h =>
    calc tokens .between ('$' :: '\x7b' :: inside ++ [])
        = tokens (.brace []) (inside ++ []) := rfl
      _ = [.unclosed] := tokens_brace [] inside [] h
  | lone hrest => exact tokens_lone hrest
  | escapedDigit hc h0 => exact (tokens_escape _ rest).trans (by rw [escaped_of_isDigit hc h0])
  | escaped hc h0 => exact (tokens_escape _ rest).trans (by rw [escaped_of_other hc h0])
  | @itself c _ hdollar hback =>
    rw [List.singleton_append, tokens_cons, Reading.step, Reading.start, if_neg hdollar,
      if_neg hback]
    rfl

/-! ## Every source begins with a lexeme -/

theorem exists_lexeme_dollar (cs : List Char) :
    ∃ token word rest, cs = word ++ rest ∧ Lexeme token ('$' :: word) rest := by
  cases cs with
  | nil => exact ⟨_, [], [], rfl, .lone (by simp)⟩
  | cons c cs =>
    by_cases hdollar : c = '$'
    · subst hdollar; exact ⟨_, ['$'], cs, rfl, .dollar⟩
    by_cases hwhole : c = '&'
    · subst hwhole; exact ⟨_, ['&'], cs, rfl, .whole⟩
    by_cases hdigit : c.isDigit
    · -- the maximal run of digits
      refine ⟨_, c :: cs.takeWhile (·.isDigit), cs.dropWhile (·.isDigit), ?_,
        .digits (by simp) ?_ ?_⟩
      · rw [List.cons_append, List.takeWhile_append_dropWhile]
      · rw [List.forall_mem_cons]
        exact ⟨hdigit, fun d hd => List.all_eq_true.1 List.all_takeWhile d hd⟩
      · intro d hd
        have := List.head?_dropWhile_not (·.isDigit) cs
        rw [Option.mem_def.1 hd] at this
        simpa using this
    by_cases hbrace : c = '\x7b'
    · subst hbrace
      by_cases hclosed : '\x7d' ∈ cs
      · -- up to the first closing brace
        obtain ⟨inside, rest, rfl, hinside⟩ := List.eq_append_cons_of_mem hclosed
        exact ⟨_, '\x7b' :: inside ++ ['\x7d'], rest, by simp, .braced hinside⟩
      · exact ⟨_, '\x7b' :: cs, [], by simp, .unclosed hclosed⟩
    · refine ⟨_, [], c :: cs, rfl, .lone ?_⟩
      simp [JoinsDollar, hdollar, hwhole, hdigit, hbrace]

theorem exists_lexeme_backslash (cs : List Char) :
    ∃ token word rest, cs = word ++ rest ∧ Lexeme token ('\\' :: word) rest := by
  cases cs with
  | nil => exact ⟨_, [], [], rfl, .dangling⟩
  | cons c cs =>
    by_cases hletter : c ∈ ['n', 't', 'r']
    · simp only [List.mem_cons, List.not_mem_nil, or_false] at hletter
      rcases hletter with rfl | rfl | rfl
      · exact ⟨_, ['n'], cs, rfl, .newline⟩
      · exact ⟨_, ['t'], cs, rfl, .tab⟩
      · exact ⟨_, ['r'], cs, rfl, .carriageReturn⟩
    by_cases hdigit : c.isDigit ∧ c ≠ '0'
    · exact ⟨_, [c], cs, rfl, .escapedDigit hdigit.1 hdigit.2⟩
    · exact ⟨_, [c], cs, rfl, .escaped hletter fun h =>
        Decidable.byContradiction fun h0 => hdigit ⟨h, h0⟩⟩

/-- Whatever its first character is, a lexeme starts there. -/
theorem exists_lexeme (c : Char) (cs : List Char) :
    ∃ token word rest, cs = word ++ rest ∧ Lexeme token (c :: word) rest := by
  by_cases hdollar : c = '$'
  · subst hdollar; exact exists_lexeme_dollar cs
  by_cases hback : c = '\\'
  · subst hback; exact exists_lexeme_backslash cs
  · exact ⟨_, [], cs, rfl, .itself hdollar hback⟩

/-! ## The only reading -/

theorem Reads.tokens_eq {source : List Char} {ts : List Token} (h : Reads source ts) :
    tokens .between source = ts := by
  induction h with
  | nil => rfl
  | cons hlexeme _ ih => rw [hlexeme.tokens_append, ih]

/-- Every source has a reading: what follows its first lexeme is shorter. -/
theorem exists_reads (source : List Char) : ∃ ts, Reads source ts := by
  induction hn : source.length using Nat.strongRecOn generalizing source with
  | ind n ih =>
    cases source with
    | nil => exact ⟨[], .nil⟩
    | cons c cs =>
      obtain ⟨token, word, rest, rfl, hlexeme⟩ := exists_lexeme c cs
      have hlt : rest.length < n := by
        rw [← hn, List.length_cons, List.length_append]
        omega
      obtain ⟨ts, hts⟩ := ih _ hlt rest rfl
      exact ⟨_, .cons hlexeme hts⟩

theorem reads_iff {source : List Char} {ts : List Token} :
    Reads source ts ↔ tokens .between source = ts := by
  refine ⟨Reads.tokens_eq, ?_⟩
  rintro rfl
  obtain ⟨ts, hts⟩ := exists_reads source
  rwa [hts.tokens_eq]

example : tokens .between "$$1 $12a $\x7b+7\x7d\\0\\7 $ $".toList =
    [.char '$', .char '1', .char ' ', .digits ['1', '2'], .char 'a', .char ' ',
      .braced ['+', '7'], .char '0', .index 7, .char ' ', .char '$', .char ' ', .char '$'] := rfl

end Template

end PatternSession
