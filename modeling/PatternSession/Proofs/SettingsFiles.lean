import PatternSession.Proofs.YamlReader

/-!
# Settings files are read back

A settings file holds a line for each limit that is set. Reading is strict, so that no limit is
lost, changed or taken for another one without a message.

**Theorem (`settings_are_read_back`).** Let the reader of the texts be lawful. Limits that fit a
machine word are read back from their lines, in whatever order the lines stand, and the default
limits from a file of white space or from no file. One more line of a key and a decimal number makes
the file malformed, wherever it is put, if the key is none of the three, or is there already, or the
number does not fit a machine word.

**Proof.** The keys of the fields are the names of the three keys (`Key.keyOf_field`). The lines of
limits are entries of different fields, with numbers that fit, so each field has the number of its
line, or is absent without one (`record?_lines`). One more line is an entry of no field, a second
entry of a field, or an entry whose value is refused (`record?_refused_line`). A text of lines says
what its entries say (`ofText?_lines`), unless a key is too long, and then it is refused.
-/

namespace PatternSession.Config

variable {r : Reader}

/-! ## Keys -/

theorem keyWord_of_all {w : List Char} (hbegins : ∃ c rest, w = c :: rest ∧ isKeyLetter c)
    (hall : w.all fun c => isKeyLetter c || c = '-') : KeyWord w where
  begins := hbegins
  letters c hc := by simpa using List.all_eq_true.1 hall c hc

namespace Key

variable {k k' : Key} {f : String} {l l' : Limits}

theorem keyWord_name (k : Key) : KeyWord k.name.toList := by
  cases k <;> exact keyWord_of_all ⟨_, _, rfl, by decide⟩ (by decide)

theorem length_name (k : Key) : k.name.toList.length ≤ 1024 := by
  cases k <;> decide

theorem eq_of_name (h : k.name.toList = k'.name.toList) : k = k' := by
  cases k <;> cases k' <;> first | rfl | exact absurd h (by decide)

theorem limits_ext (h : ∀ k : Key, k.get l = k.get l') : l = l' := by
  obtain ⟨_, _, _⟩ := l
  obtain ⟨_, _, _⟩ := l'
  congr
  · exact h backtrackLimit
  · exact h delegateSizeLimit
  · exact h delegateDfaSizeLimit

theorem get_limitsOf (k : Key) (values : String → Option Nat) :
    k.get (limitsOf values) = values k.field := by
  cases k <;> rfl

theorem field_mem (k : Key) : k.field ∈ declaration.fields := by
  cases k <;> decide

theorem exists_of_mem_fields (h : f ∈ declaration.fields) : ∃ k : Key, f = k.field := by
  obtain ⟨k, -, rfl⟩ := List.mem_map.1 h
  exact ⟨k, rfl⟩

/-- **The key of a field** is written with hyphens. -/
theorem keyOf_field (hr : r.Lawful) (k : Key) : r.keyOf declaration k.field = k.name.toList := by
  have hkebab : declaration.kebabCase = true := rfl
  rw [Reader.keyOf, Declaration.keyOf, if_pos hkebab, hr.kebab_eq]
  cases k <;> rfl

theorem nodup_keys (hr : r.Lawful) : (declaration.fields.map (r.keyOf declaration)).Nodup := by
  have hnames : declaration.fields.map (r.keyOf declaration) =
      all.map fun k => k.name.toList := by
    rw [declaration, List.map_map]
    exact List.map_congr_left fun k _ => keyOf_field hr k
  rw [hnames]
  decide

end Key

/-! ## Lines of a settings file -/

/-- A file with a text. -/
def file (cs : List Char) : File := .bytes (String.ofList cs).toUTF8

/-- The line that sets a key to a number. -/
def keyLine (k : Key) (n : Nat) : Line := ⟨k.name.toList, (toString n).toList⟩

/-- Every limit fits a machine word. -/
def Fits (limits : Limits) : Prop := ∀ (k : Key) (n : Nat), k.get limits = some n → n < wordValues

/-- One line for each of the keys that has a value. -/
def lines (limits : Limits) (order : List Key) : List Line :=
  order.filterMap fun k => (k.get limits).map (keyLine k)

/-- Why one more line is refused among others. -/
inductive Refused (others : List Line) (line : Line) : Prop
  | unknown (h : ∀ k : Key, line.key ≠ k.name.toList)
  | repeated (h : ∃ m ∈ others, m.key = line.key)
  | large (h : wordValues ≤ Nat.ofDigitChars 10 line.value 0)

section Lines

variable {limits : Limits} {order : List Key} {k : Key} {n : Nat} {m m' line : Line}
  {before between after : List Line}

theorem plain_keyLine (k : Key) (n : Nat) : (keyLine k n).Plain where
  key := k.keyWord_name
  value := by
    rw [keyLine, Nat.toString_eq_ofList_toDigits, String.toList_ofList]
    exact decimal_toDigits n

theorem mem_lines :
    m ∈ lines limits order ↔ ∃ k ∈ order, ∃ n, k.get limits = some n ∧ keyLine k n = m := by
  simp only [lines, List.mem_filterMap, Option.map_eq_some_iff]

theorem plain_of_mem_lines (hm : m ∈ lines limits order) : m.Plain := by
  obtain ⟨k, -, n, -, rfl⟩ := mem_lines.1 hm
  exact plain_keyLine k n

theorem length_key_of_mem_lines (hm : m ∈ lines limits order) : m.key.length ≤ 1024 := by
  obtain ⟨k, -, n, -, rfl⟩ := mem_lines.1 hm
  exact k.length_name

theorem lines_cons_of_some (h : k.get limits = some n) :
    lines limits (k :: order) = keyLine k n :: lines limits order := by
  simp [lines, h]

theorem lines_cons_of_none (h : k.get limits = none) :
    lines limits (k :: order) = lines limits order := by
  simp [lines, h]

/-- Different keys have different lines. -/
theorem nodup_lines (hnodup : order.Nodup) : ((lines limits order).map Line.key).Nodup := by
  rw [lines, List.map_filterMap]
  refine List.Nodup.filterMap ?_ hnodup
  intro k k' w hk hk'
  simp only [Option.map_map, Option.mem_def, Option.map_eq_some_iff] at hk hk'
  obtain ⟨n, -, rfl⟩ := hk
  obtain ⟨n', -, hname⟩ := hk'
  exact Key.eq_of_name hname.symm

/-- The entries of lines have the keys of the lines. -/
theorem map_fst_entryOf (r : Reader) (ls : List Line) :
    (ls.map r.entryOf).map Prod.fst = ls.map Line.key := by
  rw [List.map_map]
  rfl

/-- The only entry of a key is that of its line. -/
theorem get_of_mem_entries {value : r.Node}
    (h : (k.name.toList, value) ∈ (lines limits order).map r.entryOf) :
    ∃ n, k.get limits = some n ∧ value = r.plain (toString n).toList := by
  obtain ⟨m, hm, hentry⟩ := List.mem_map.1 h
  obtain ⟨k', -, n, hn, rfl⟩ := mem_lines.1 hm
  obtain ⟨hname, rfl⟩ := Prod.mk.inj hentry
  obtain rfl := Key.eq_of_name hname
  exact ⟨n, hn, rfl⟩

/-- **The entries of the lines are accepted,** and give the limits. -/
theorem record?_lines (hr : r.Lawful) (hfits : Fits limits) (hnodup : order.Nodup)
    (hall : ∀ k : Key, (k.get limits).isSome → k ∈ order) :
    ∃ values, r.record? declaration ((lines limits order).map r.entryOf) = some values ∧
      limitsOf values = limits := by
  have hkeys : (((lines limits order).map r.entryOf).map Prod.fst).Nodup := by
    rw [map_fst_entryOf]
    exact nodup_lines hnodup
  have hentries : ∀ e ∈ (lines limits order).map r.entryOf,
      (∃ f ∈ declaration.fields, e.1 = r.keyOf declaration f) ∧ (r.number? e.2).isSome := by
    intro e he
    obtain ⟨m, hm, rfl⟩ := List.mem_map.1 he
    obtain ⟨k, -, n, hn, rfl⟩ := mem_lines.1 hm
    refine ⟨⟨k.field, k.field_mem, (Key.keyOf_field hr k).symm⟩, ?_⟩
    exact Option.isSome_of_eq_some (hr.decimal n (hfits k n hn))
  obtain ⟨values, hrecord, hvalues⟩ := hr.accepted declaration _ (Key.nodup_keys hr) hkeys hentries
  refine ⟨values, hrecord, Key.limits_ext fun k => ?_⟩
  obtain ⟨hset, habsent⟩ := hvalues k.field k.field_mem
  rw [Key.keyOf_field hr] at hset habsent
  rw [Key.get_limitsOf]
  cases hk : k.get limits with
  | some n =>
    have hmem : keyLine k n ∈ lines limits order :=
      mem_lines.2 ⟨k, hall k (Option.isSome_of_eq_some hk), n, hk, rfl⟩
    have hread := hset _ (List.mem_map_of_mem hmem)
    exact Option.some.inj (hread.symm.trans (hr.decimal n (hfits k n hk)))
  | none =>
    refine habsent fun value hmem => ?_
    obtain ⟨n, hn, -⟩ := get_of_mem_entries hmem
    cases hk.symm.trans hn

/-- Two lines of one key are refused. -/
theorem record?_repeated_lines (hr : r.Lawful) (hm : m.key = k.name.toList)
    (hm' : m'.key = k.name.toList) :
    r.record? declaration ((before ++ m :: (between ++ m' :: after)).map r.entryOf) = none := by
  have htwice := hr.repeated declaration (before.map r.entryOf) (between.map r.entryOf)
    (after.map r.entryOf) k.field (r.plain m.value) (r.plain m'.value) k.field_mem
  rw [Key.keyOf_field hr] at htwice
  simp only [List.map_append, List.map_cons, Reader.entryOf, hm, hm']
  exact htwice

/-- **One more line is refused,** wherever it is put. -/
theorem record?_refused_line (hr : r.Lawful) (hvalue : Decimal line.value)
    (hrefused : Refused (before ++ after) line) :
    r.record? declaration ((before ++ line :: after).map r.entryOf) = none := by
  have hmem : (line.key, r.plain line.value) ∈ (before ++ line :: after).map r.entryOf :=
    List.mem_map_of_mem (List.mem_append_right before List.mem_cons_self)
  by_cases hknown : ∃ k : Key, line.key = k.name.toList
  · obtain ⟨k, hk⟩ := hknown
    rcases hrefused with hunknown | ⟨m, hm, hsame⟩ | hlarge
    · exact absurd hk (hunknown k)
    · rcases List.mem_append.1 hm with hbefore | hafter
      · obtain ⟨front, between, rfl⟩ := List.append_of_mem hbefore
        rw [List.append_assoc, List.cons_append]
        exact record?_repeated_lines hr (hsame.trans hk) hk
      · obtain ⟨between, back, rfl⟩ := List.append_of_mem hafter
        exact record?_repeated_lines hr hk (hsame.trans hk)
    · rw [hk, ← Key.keyOf_field hr] at hmem
      exact hr.refused declaration _ k.field _ k.field_mem hmem (hr.overflow _ hvalue hlarge)
  · refine hr.unknown declaration _ line.key _ rfl hmem fun f hf hkey => hknown ?_
    obtain ⟨k, rfl⟩ := Key.exists_of_mem_fields hf
    exact ⟨k, hkey.trans (Key.keyOf_field hr k)⟩

end Lines

/-! ## Files of lines -/

section Files

variable {limits : Limits} {order : List Key} {l line : Line} {ls before after : List Line}
  {ended : Bool} {path : String} {cs : List Char}

theorem fromUTF8?_toUTF8 (s : String) : String.fromUTF8? s.toUTF8 = some s := by
  rw [String.fromUTF8?, String.toUTF8_eq_toByteArray, dif_pos s.isValidUTF8]
  rfl

theorem load_file_of_some (h : r.ofText? cs = some limits) :
    r.load path (file cs) = .ok limits := by
  simp only [Reader.load, file, fromUTF8?_toUTF8, String.toList_ofList, h]

theorem load_file_of_none (h : r.ofText? cs = none) :
    r.load path (file cs) = .error (.malformed path) := by
  simp only [Reader.load, file, fromUTF8?_toUTF8, String.toList_ofList, h]

theorem not_space_colon : Unicode.space.contains ':' = false := by cbv

theorem colon_mem_linesText (ended : Bool) (l : Line) (ls : List Line) :
    ':' ∈ linesText ended (l :: ls) := by
  cases ls <;> simp [linesText, Line.written]

theorem not_isSpace_linesText (ended : Bool) (l : Line) (ls : List Line) :
    isSpace (linesText ended (l :: ls)) = false := by
  rw [isSpace, List.all_eq_false]
  exact ⟨':', colon_mem_linesText ended l ls, by simp [not_space_colon]⟩

/-- **A text of lines** is read by their entries, or has too long a key and is refused. -/
theorem ofText?_lines (hr : r.Lawful) (hls : ∀ m ∈ l :: ls, m.Plain) (ended : Bool) :
    r.ofText? (linesText ended (l :: ls)) =
        (r.record? declaration ((l :: ls).map r.entryOf)).map limitsOf ∨
      (∃ m ∈ l :: ls, 1024 < m.key.length) ∧ r.ofText? (linesText ended (l :: ls)) = none := by
  rw [Reader.ofText?, not_isSpace_linesText, if_neg Bool.false_ne_true]
  rcases hr.lines ended l ls hls with hentries | ⟨hlong, hnone⟩
  · rw [hentries]
    exact .inl rfl
  · rw [hnone]
    exact .inr ⟨hlong, rfl⟩

theorem linesText_true_cons (l : Line) (ls : List Line) :
    linesText true (l :: ls) = l.written ++ '\n' :: linesText true ls := by
  cases ls <;> rfl

/-- The text of limits is the text of their lines. -/
theorem text_eq_linesText (limits : Limits) (order : List Key) :
    text limits order = linesText true (lines limits order) := by
  induction order with
  | nil => rfl
  | cons k order ih =>
    rw [text, List.flatMap_cons, ← text, ih]
    cases hk : k.get limits with
    | none => rw [lines_cons_of_none hk, List.nil_append]
    | some n =>
      rw [lines_cons_of_some hk, linesText_true_cons]
      simp [keyLine, Line.written]

/-- Without lines the limits are the default ones. -/
theorem eq_default_of_lines_nil (hall : ∀ k : Key, (k.get limits).isSome → k ∈ order)
    (hlines : lines limits order = []) : limits = {} := by
  refine Key.limits_ext fun k => ?_
  have hdefault : k.get {} = none := by cases k <;> rfl
  rw [hdefault, ← Option.not_isSome_iff_eq_none]
  intro hk
  obtain ⟨n, hn⟩ := Option.isSome_iff_exists.1 hk
  exact List.not_mem_nil (hlines ▸ mem_lines.2 ⟨k, hall k hk, n, hn, rfl⟩)

/-- The lines of limits are read as the limits. -/
theorem ofText?_linesText (hr : r.Lawful) (hfits : Fits limits) (hnodup : order.Nodup)
    (hall : ∀ k : Key, (k.get limits).isSome → k ∈ order) (ended : Bool) :
    r.ofText? (linesText ended (lines limits order)) = some limits := by
  cases hlines : lines limits order with
  | nil =>
    rw [eq_default_of_lines_nil hall hlines]
    rfl
  | cons l ls =>
    have hplain : ∀ m ∈ l :: ls, m.Plain := fun m hm => plain_of_mem_lines (hlines ▸ hm)
    obtain ⟨values, hrecord, hlimits⟩ := record?_lines hr hfits hnodup hall
    rcases ofText?_lines hr hplain ended with hread | ⟨⟨m, hm, hlong⟩, -⟩
    · rw [hread, ← hlines, hrecord, Option.map_some, hlimits]
    · exact absurd hlong (Nat.not_lt.2 (length_key_of_mem_lines (hlines ▸ hm)))

/-- A text with one more line that is refused gives no limits. -/
theorem ofText?_refused (hr : r.Lawful) (hlines : ∀ m ∈ before ++ after, m.Plain)
    (hplain : line.Plain) (hrefused : Refused (before ++ after) line) (ended : Bool) :
    r.ofText? (linesText ended (before ++ line :: after)) = none := by
  have hall : ∀ m ∈ before ++ line :: after, m.Plain := by
    rw [List.forall_mem_append, List.forall_mem_cons]
    rw [List.forall_mem_append] at hlines
    exact ⟨hlines.1, hplain, hlines.2⟩
  have hnone := record?_refused_line hr hplain.value hrefused
  obtain ⟨l, ls, hcons⟩ := List.exists_cons_of_ne_nil
    (List.append_ne_nil_of_right_ne_nil before (List.cons_ne_nil line after))
  rw [hcons] at hall hnone ⊢
  rcases ofText?_lines hr hall ended with hread | ⟨-, hread⟩
  · rw [hread, hnone, Option.map_none]
  · exact hread

/-- **Settings files are read back.** The lines of limits are read as the limits, in any order of
the keys, and nothing at all as the default limits. One more line that is refused makes the file
malformed, wherever it stands. -/
theorem settings_are_read_back (hr : r.Lawful) (path : String) (hfits : Fits limits)
    (hnodup : order.Nodup) (hall : ∀ k : Key, (k.get limits).isSome → k ∈ order) :
    r.load path (file (text limits order)) = .ok limits ∧
    (∀ ended, r.load path (file (linesText ended (lines limits order))) = .ok limits) ∧
    (∀ cs, (∀ c ∈ cs, Unicode.space.contains c) → r.load path (file cs) = .ok {}) ∧
    r.load path .absent = .ok {} ∧
    ∀ ended before line after, lines limits order = before ++ after →
      KeyWord line.key → Decimal line.value → Refused (before ++ after) line →
      ∃ e : ConfigError,
        r.load path (file (linesText ended (before ++ line :: after))) = .error e ∧
        e.message = "failed to parse " ++ path := by
  have hread := ofText?_linesText hr hfits hnodup hall
  refine ⟨?_, fun ended => load_file_of_some (hread ended), fun cs hspace => ?_, rfl, ?_⟩
  · rw [text_eq_linesText]
    exact load_file_of_some (hread true)
  · refine load_file_of_some ?_
    rw [Reader.ofText?, isSpace, if_pos (List.all_eq_true.2 hspace)]
  · intro ended before line after hlines hkey hvalue hrefused
    have hplain : ∀ m ∈ before ++ after, m.Plain := fun m hm => plain_of_mem_lines (hlines ▸ hm)
    exact ⟨_, load_file_of_none (ofText?_refused hr hplain ⟨hkey, hvalue⟩ hrefused ended), rfl⟩

/-- Two limits, the greatest and the least, and a line among theirs with a misspelt key, as the
reader of YAML reads them. -/
theorem settings_are_read_back_from_two_lines :
    yaml.load "rx.yml"
        (file "delegate-dfa-size-limit: 0\nbacktrack-limit: 18446744073709551615\n".toList) =
      .ok ⟨some 18446744073709551615, none, some 0⟩ ∧
    ∃ e : ConfigError,
      yaml.load "rx.yml" (file ("delegate-dfa-size-limit: 0\nbacktrack-limt: 10\n" ++
        "backtrack-limit: 18446744073709551615").toList) = .error e ∧
      e.message = "failed to parse rx.yml" := by
  let limits : Limits := ⟨some 18446744073709551615, none, some 0⟩
  let order : List Key := [.delegateDfaSizeLimit, .backtrackLimit]
  have hfits : Fits limits := by
    rintro (_ | _ | _) n ⟨⟩ <;> decide
  have hall : ∀ k : Key, (k.get limits).isSome → k ∈ order := by
    rintro (_ | _ | _) <;> decide
  have hread := settings_are_read_back yaml_lawful "rx.yml" hfits (by decide) hall
  have htext : text limits order =
      "delegate-dfa-size-limit: 0\nbacktrack-limit: 18446744073709551615\n".toList := by
    cbv
  have hkey : KeyWord "backtrack-limt".toList :=
    keyWord_of_all ⟨_, _, rfl, by decide⟩ (by decide)
  have hvalue : Decimal "10".toList := ⟨by decide, List.all_eq_true.1 (by decide)⟩
  have hmore : linesText false ([keyLine .delegateDfaSizeLimit 0] ++
      ⟨"backtrack-limt".toList, "10".toList⟩ :: [keyLine .backtrackLimit 18446744073709551615]) =
      ("delegate-dfa-size-limit: 0\nbacktrack-limt: 10\n" ++
        "backtrack-limit: 18446744073709551615").toList := by
    cbv
  have hrefused := hread.2.2.2.2 false [keyLine .delegateDfaSizeLimit 0]
    ⟨"backtrack-limt".toList, "10".toList⟩ [keyLine .backtrackLimit 18446744073709551615] rfl
    hkey hvalue (.unknown (by rintro (_ | _ | _) <;> decide))
  rw [hmore] at hrefused
  exact ⟨htext ▸ hread.1, hrefused⟩

end Files

end PatternSession.Config
