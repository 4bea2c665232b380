import PatternSession.Proofs.Decoding

/-!
# Chains of occurrences

What the searches of a text find, one after the other, with no bytes and no loop in sight.

**Chains.** `Chain look stop pos occs failure` says that the searches from `pos` on, each of which
begins where the occurrence before ended (one character further after an empty one), find `occs`
up to `stop` and then end, with the error `failure` if there is one. Both the lazy iteration and the
sweep of a substitution walk a chain.

**What is replaced.** `separated` leaves out every empty occurrence that begins where the one before
ended. `splice` is the text with the occurrences replaced, and everything else kept in order.

**Lemmas.** Searches that fit their bounds have a chain from everywhere (`Look.Fits.exists_chain`),
of no more occurrences than there are places left (`Chain.length_le`), and the occurrences of a
chain stand in order (`Chain.ordered`, `Chain.increasing`).
-/

namespace PatternSession

/-! ## Occurrences -/

/-- The whole match among the groups. -/
def wholeOf : List (Option GroupBounds) → GroupBounds
  | some w :: _ => w
  | _ => ⟨0, 0⟩

/-- Where the search goes on after a match. -/
def GroupBounds.resume (w : GroupBounds) : Nat := w.start + max (w.stop - w.start) 1

theorem GroupBounds.stop_le_resume (w : GroupBounds) : w.stop ≤ w.resume := by
  unfold resume
  omega

/-- The whole match of groups that fit lies between the start and the end of the search. -/
theorem GroupsFit.bounds {pos stop : Nat} {groups : List (Option GroupBounds)}
    (h : GroupsFit pos stop groups) :
    pos ≤ (wholeOf groups).start ∧ (wholeOf groups).start ≤ (wholeOf groups).stop ∧
      (wholeOf groups).stop ≤ stop := by
  obtain ⟨w, rest, rfl, hpos⟩ := h.whole
  obtain ⟨hw, hstop⟩ := h.inside _ (List.mem_cons_self ..) w rfl
  exact ⟨hpos, hw, hstop⟩

/-- A match, and where the search for it began. -/
structure Occurrence where
  pos : Nat
  groups : List (Option GroupBounds)

def Occurrence.whole (o : Occurrence) : GroupBounds := wholeOf o.groups

/-! ## Chains -/

/-- Searches by character positions. -/
abbrev Look := Nat → Except String (Option (List (Option GroupBounds)))

/-- What is found lies between the start and the end of the search. -/
def Look.Fits (look : Look) (stop : Nat) : Prop :=
  ∀ pos groups, pos ≤ stop → look pos = .ok (some groups) → GroupsFit pos stop groups

/-- The searches from `pos` on find these occurrences, and end so. -/
inductive Chain (look : Look) (stop : Nat) : Nat → List Occurrence → Option String → Prop
  | past {pos : Nat} : stop < pos → Chain look stop pos [] none
  | failed {pos : Nat} {e : String} : pos ≤ stop → look pos = .error e →
    Chain look stop pos [] (some e)
  | ended {pos : Nat} : pos ≤ stop → look pos = .ok none → Chain look stop pos [] none
  | found {pos : Nat} {groups : List (Option GroupBounds)} {occs : List Occurrence}
    {failure : Option String} : pos ≤ stop → look pos = .ok (some groups) →
    Chain look stop (wholeOf groups).resume occs failure →
    Chain look stop pos (⟨pos, groups⟩ :: occs) failure

/-- What comes of a chain: its error, or else a value. -/
def orFailure {ε α : Type} (failure : Option ε) (value : α) : Except ε α :=
  match failure with
  | some e => .error e
  | none => .ok value

namespace Chain

variable {look : Look} {stop pos : Nat} {occs : List Occurrence} {failure : Option String}

/-- The occurrence found from `pos` makes the next search begin further on. -/
theorem lt_resume (hfits : look.Fits stop) {groups : List (Option GroupBounds)} (hpos : pos ≤ stop)
    (hlook : look pos = .ok (some groups)) : pos < (wholeOf groups).resume := by
  have := (hfits pos groups hpos hlook).bounds
  unfold GroupBounds.resume
  omega

theorem eq_nil_of_past (h : Chain look stop pos occs failure) (hpos : stop < pos) :
    occs = [] ∧ failure = none := by
  cases h with
  | past => exact ⟨rfl, rfl⟩
  | failed hle => exact absurd hle (Nat.not_le.2 hpos)
  | ended hle => exact absurd hle (Nat.not_le.2 hpos)
  | found hle => exact absurd hle (Nat.not_le.2 hpos)

theorem groupsFit (h : Chain look stop pos occs failure) (hfits : look.Fits stop) :
    ∀ o ∈ occs, GroupsFit o.pos stop o.groups := by
  induction h with
  | past | failed | ended =>
    intro o ho
    cases ho
  | found hpos hlook _ ih =>
    intro o ho
    rcases List.mem_cons.1 ho with rfl | ho
    · exact hfits _ _ hpos hlook
    · exact ih o ho

/-- Every occurrence of a chain lies at or after its start. -/
theorem le_start (h : Chain look stop pos occs failure) (hfits : look.Fits stop) :
    ∀ o ∈ occs, pos ≤ o.whole.start := by
  induction h with
  | past | failed | ended =>
    intro o ho
    cases ho
  | found hpos hlook _ ih =>
    intro o ho
    rcases List.mem_cons.1 ho with rfl | ho
    · exact (hfits _ _ hpos hlook).bounds.1
    · exact Nat.le_trans (Nat.le_of_lt (lt_resume hfits hpos hlook)) (ih o ho)

/-- There is at most one occurrence for every place to begin at. -/
theorem length_le (h : Chain look stop pos occs failure) (hfits : look.Fits stop) :
    occs.length ≤ stop + 1 - pos := by
  induction h with
  | past | failed | ended => exact Nat.zero_le _
  | found hpos hlook _ ih =>
    have hlt := lt_resume hfits hpos hlook
    rw [List.length_cons]
    omega

/-- Each occurrence begins after those before it, and none of them reaches into it. -/
theorem increasing (h : Chain look stop pos occs failure) (hfits : look.Fits stop) :
    occs.Pairwise fun a b => a.whole.start < b.whole.start ∧ a.whole.stop ≤ b.whole.start := by
  induction h with
  | past | failed | ended => exact .nil
  | @found pos groups occs failure hpos hlook hrest ih =>
    refine .cons ?_ ih
    intro b hb
    have hresume : (wholeOf groups).resume ≤ b.whole.start := hrest.le_start hfits b hb
    have hstop := (wholeOf groups).stop_le_resume
    have hstart : (wholeOf groups).start < (wholeOf groups).resume := by
      unfold GroupBounds.resume
      omega
    exact ⟨Nat.lt_of_lt_of_le hstart hresume, Nat.le_trans hstop hresume⟩

/-- After each occurrence the rest of the chain goes on where the search does. -/
theorem rest (h : Chain look stop pos occs failure) {i : Nat} {o : Occurrence}
    (ho : occs[i]? = some o) :
    o.pos ≤ stop ∧ look o.pos = .ok (some o.groups) ∧
      Chain look stop o.whole.resume (occs.drop (i + 1)) failure := by
  induction h generalizing i with
  | past | failed | ended => cases ho
  | found hpos hlook hrest ih =>
    cases i with
    | zero =>
      obtain rfl := Option.some.inj ho
      exact ⟨hpos, hlook, hrest⟩
    | succ i => exact ih ho

/-- The first occurrence was looked for from the start of the chain. -/
theorem pos_of_head (h : Chain look stop pos occs failure) {o : Occurrence}
    (ho : occs[0]? = some o) : o.pos = pos := by
  cases h with
  | past | failed | ended => cases ho
  | found =>
    obtain rfl := Option.some.inj ho
    rfl

end Chain

/-- From every position there is a chain. -/
theorem Look.Fits.exists_chain {look : Look} {stop : Nat} (hfits : look.Fits stop) (pos : Nat) :
    ∃ occs failure, Chain look stop pos occs failure := by
  -- every search begins further on, so the characters left are what decreases
  induction hleft : stop + 1 - pos using Nat.strongRecOn generalizing pos with
  | ind left ih =>
    subst hleft
    by_cases hpos : pos ≤ stop
    · rcases hlook : look pos with e | (_ | groups)
      · exact ⟨_, _, .failed hpos hlook⟩
      · exact ⟨_, _, .ended hpos hlook⟩
      · have hlt := Chain.lt_resume hfits hpos hlook
        obtain ⟨occs, failure, hrest⟩ := ih (stop + 1 - (wholeOf groups).resume) (by omega) _ rfl
        exact ⟨_, _, .found hpos hlook hrest⟩
    · exact ⟨_, _, .past (Nat.lt_of_not_le hpos)⟩

/-! ## Order -/

/-- The occurrences follow each other from `last` on, and end by `stop`. -/
def Ordered (stop : Nat) : Nat → List Occurrence → Prop
  | last, [] => last ≤ stop
  | last, o :: rest =>
    last ≤ o.whole.start ∧ o.whole.start ≤ o.whole.stop ∧ Ordered stop o.whole.stop rest

theorem Ordered.le {stop last : Nat} {occs : List Occurrence} (h : Ordered stop last occs) :
    last ≤ stop := by
  induction occs generalizing last with
  | nil => exact h
  | cons o rest ih =>
    have := ih h.2.2
    have := h.1
    have := h.2.1
    omega

theorem Ordered.mono {stop last last' : Nat} {occs : List Occurrence}
    (h : Ordered stop last occs) (hle : last' ≤ last) : Ordered stop last' occs := by
  cases occs with
  | nil => exact Nat.le_trans hle h
  | cons o rest => exact ⟨Nat.le_trans hle h.1, h.2⟩

/-- The occurrences of a chain stand in order. -/
theorem Chain.ordered {look : Look} {stop pos last : Nat} {occs : List Occurrence}
    {failure : Option String} (h : Chain look stop pos occs failure) (hfits : look.Fits stop)
    (hpos : last ≤ pos) (hstop : last ≤ stop) : Ordered stop last occs := by
  induction h generalizing last with
  | past | failed | ended => exact hstop
  | found hle hlook _ ih =>
    obtain ⟨hstart, horder, hend⟩ := (hfits _ _ hle hlook).bounds
    exact ⟨Nat.le_trans hpos hstart, horder, ih (wholeOf _).stop_le_resume hend⟩

/-! ## Separated occurrences -/

section Separated

variable {α β : Type}

/-- Without the empty occurrences that begin where the one before ended; `prev` is where the one
before the first ended. -/
def separated (whole : α → GroupBounds) (prev : Option Nat) : List α → List α
  | [] => []
  | k :: rest =>
    if (whole k).start = (whole k).stop ∧ prev = some (whole k).start then
      separated whole (some (whole k).stop) rest
    else k :: separated whole (some (whole k).stop) rest

theorem mem_of_mem_separated {whole : α → GroupBounds} {prev : Option Nat} {ks : List α} {k : α}
    (h : k ∈ separated whole prev ks) : k ∈ ks := by
  induction ks generalizing prev with
  | nil => exact h
  | cons k' rest ih =>
    unfold separated at h
    split at h
    · exact List.mem_cons_of_mem _ (ih h)
    · rcases List.mem_cons.1 h with rfl | h
      · exact List.mem_cons_self ..
      · exact List.mem_cons_of_mem _ (ih h)

/-- The choice depends on the whole matches alone. -/
theorem separated_map {whole : β → GroupBounds} {whole' : α → GroupBounds} (f : α → β)
    (prev : Option Nat) {ks : List α} (h : ∀ k ∈ ks, whole (f k) = whole' k) :
    separated whole prev (ks.map f) = (separated whole' prev ks).map f := by
  induction ks generalizing prev with
  | nil => rfl
  | cons k rest ih =>
    have hrest := fun k' hk' => h k' (List.mem_cons_of_mem k hk')
    rw [List.map_cons, separated, separated, h k (List.mem_cons_self ..)]
    split
    · exact ih _ hrest
    · rw [List.map_cons, ih _ hrest]

end Separated

theorem Ordered.separated {stop last : Nat} {occs : List Occurrence} (h : Ordered stop last occs)
    (prev : Option Nat) : Ordered stop last (separated Occurrence.whole prev occs) := by
  induction occs generalizing last prev with
  | nil => exact h
  | cons o rest ih =>
    obtain ⟨hlast, horder, hrest⟩ := h
    unfold PatternSession.separated
    split
    · exact (ih hrest _).mono (Nat.le_trans hlast horder)
    · exact ⟨hlast, horder, ih hrest _⟩

/-! ## Replacing -/

section Splice

variable {α β : Type}

/-- The characters from `last` on, with an expansion in the place of every occurrence. -/
def splice (cs : List Char) (whole : α → GroupBounds) (expansion : α → List Char) (last : Nat) :
    List α → List Char
  | [] => cs.drop last
  | k :: rest =>
    (cs.drop last).take ((whole k).start - last) ++
      (expansion k ++ splice cs whole expansion (whole k).stop rest)

theorem splice_map {cs : List Char} {whole : β → GroupBounds} {whole' : α → GroupBounds}
    {expansion : β → List Char} {expansion' : α → List Char} (f : α → β) (last : Nat)
    {ks : List α} (hwhole : ∀ k ∈ ks, whole (f k) = whole' k)
    (hexpansion : ∀ k ∈ ks, expansion (f k) = expansion' k) :
    splice cs whole expansion last (ks.map f) = splice cs whole' expansion' last ks := by
  induction ks generalizing last with
  | nil => rfl
  | cons k rest ih =>
    rw [List.map_cons, splice, splice, hwhole k (List.mem_cons_self ..),
      hexpansion k (List.mem_cons_self ..),
      ih _ (fun k' hk' => hwhole k' (List.mem_cons_of_mem k hk'))
        (fun k' hk' => hexpansion k' (List.mem_cons_of_mem k hk'))]

end Splice

/-- What precedes the occurrences is kept. -/
theorem splice_eq_append {cs : List Char} {expansion : Occurrence → List Char} {stop pos last : Nat}
    {occs : List Occurrence} (h : Ordered stop pos occs) (hle : last ≤ pos) :
    splice cs Occurrence.whole expansion last occs =
      (cs.drop last).take (pos - last) ++ splice cs Occurrence.whole expansion pos occs := by
  have hdrop : cs.drop pos = (cs.drop last).drop (pos - last) := by
    rw [List.drop_drop, Nat.add_sub_cancel' hle]
  cases occs with
  | nil => rw [splice, splice, hdrop, List.take_append_drop]
  | cons o rest =>
    have hstart := h.1
    have hsplit : o.whole.start - last = (pos - last) + (o.whole.start - pos) := by omega
    rw [splice, splice, hdrop, hsplit, List.take_add, List.append_assoc]

end PatternSession
