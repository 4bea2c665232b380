/-!
# What a substitution has to pass to the engine

The engine keeps its compiled pattern and template between calls, so a substitution passes only
what the handle does not hold already. A `CompileRecord` remembers the options and the template of
the last substitution that the engine accepted.

- With the same options, the pattern stays compiled, and the template is passed only if it differs.
- With other options, pattern, options and template are all passed.
- After a failed substitution nothing is known about the handle, so everything is passed.
-/

namespace PatternSession

/-- Options and template that the handle is known to hold. -/
structure CompileRecord where
  /-- `none` when the handle's options are unknown. -/
  options : Option String
  template : Option String
  deriving DecidableEq

/-- What to pass for one substitution. -/
structure Plan where
  /-- Is the pattern passed? -/
  recompile : Bool
  options : Option String
  template : Option String
  deriving DecidableEq

namespace CompileRecord

/-- A new handle holds the pattern compiled with the session's options, and no template. -/
def initial (options : String) : CompileRecord := ⟨some options, none⟩

/-- What a substitution under these options with this template has to pass. -/
def plan (r : CompileRecord) (options template : String) : Plan :=
  if r.options = some options then
    ⟨false, none, if r.template = some template then none else some template⟩
  else
    ⟨true, some options, some template⟩

/-- The record after an accepted substitution. -/
def accepted (_ : CompileRecord) (options template : String) : CompileRecord :=
  ⟨some options, some template⟩

/-- The record after a failed substitution. -/
def failed (_ : CompileRecord) : CompileRecord := ⟨none, none⟩

end CompileRecord

end PatternSession
