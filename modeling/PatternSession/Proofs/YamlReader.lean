import Mathlib
import PatternSession.Config
import PatternSession.Proofs.PlainLines

/-!
# The reader of settings files is lawful

**Theorem (`yaml_lawful`).** What settings files rely on holds of the reader of YAML.

**Lines.** Keys and decimal numbers are words, so lines of them are a mapping (`mapping?_lines`).

**Values.** A decimal number is no word for "no value" and has no prefix, so it is read by its
digits. What is written of a number has no leading zeros (`head?_toDigits`).

**Records.** An entry is refused or gives one more field its value (`enter?`). What an entry refuses
is refused whatever came before (`record?_append_eq_none`), and a field that has a value keeps it
(`foldlM_again`). Entries of different fields are all entered (`exists_foldlM`).
-/

namespace PatternSession.Config

open Yaml

/-! ## Words of a settings file -/

section Words

variable {c : Char} {w : List Char}

theorem isLower_iff : c.isLower ↔ 97 ≤ c.toNat ∧ c.toNat ≤ 122 := by
  simp [Char.isLower, UInt32.le_iff_toNat_le, ← Char.toNat_val]

theorem isAllowed_of_between (hlow : 0x20 ≤ c.toNat) (hhigh : c.toNat ≤ 0x7E) : isAllowed c := by
  simp [isAllowed, hlow, hhigh]

/-- Words begin with the characters of any class that has no reserved one. -/
theorem beginsWord_of_class {p : Char → Bool} (hnone : reserved.all (fun d => !p d) = true)
    (hc : p c) : beginsWord c := by
  refine beginsWord_iff.2 fun hmem => ?_
  have hnot := List.all_eq_true.1 hnone c hmem
  rw [hc] at hnot
  cases hnot

theorem beginsWord_of_isKeyLetter (hc : isKeyLetter c) : beginsWord c :=
  beginsWord_of_class (by decide) hc

/-- Beyond ASCII only two characters are not allowed, for there are no surrogates. -/
theorem isAllowed_of_wide (hlow : 0xA0 ≤ c.toNat) (hfffe : c ≠ '\uFFFE') (hffff : c ≠ '\uFFFF') :
    isAllowed c := by
  have hne : c.toNat ≠ 0xFFFE := fun heq => hfffe (Char.toNat_inj.1 heq)
  have hne' : c.toNat ≠ 0xFFFF := fun heq => hffff (Char.toNat_inj.1 heq)
  have hvalid : c.toNat < 0xD800 ∨ 0xDFFF < c.toNat ∧ c.toNat < 0x110000 := c.valid
  simp only [isAllowed, Bool.or_eq_true, Bool.and_eq_true, decide_eq_true_eq]
  omega

theorem isAllowed_of_isKeyLetter (hc : isKeyLetter c) : isAllowed c := by
  simp only [isKeyLetter, Bool.or_eq_true, Bool.and_eq_true, decide_eq_true_eq] at hc
  rcases hc with hlower | ⟨hlow, hnot⟩
  · obtain ⟨hlow, hhigh⟩ := isLower_iff.1 hlower
    exact isAllowed_of_between (by omega) (by omega)
  · obtain ⟨-, -, -, hfffe, hffff⟩ : c ≠ '\u2028' ∧ c ≠ '\u2029' ∧ c ≠ '\uFEFF' ∧
        c ≠ '\uFFFE' ∧ c ≠ '\uFFFF' := by
      simpa using hnot
    exact isAllowed_of_wide hlow hfffe hffff

theorem KeyWord.word (h : KeyWord w) : Word w where
  begins := by
    obtain ⟨c, rest, rfl, hc⟩ := h.begins
    exact ⟨c, rest, rfl, beginsWord_of_isKeyLetter hc⟩
  inner := by
    intro c hc
    rcases h.letters c hc with hletter | rfl
    · exact goesOn_of_beginsWord (beginsWord_of_isKeyLetter hletter)
    · decide
  allowed := by
    intro c hc
    rcases h.letters c hc with hletter | rfl
    · exact isAllowed_of_isKeyLetter hletter
    · decide

theorem beginsWord_of_isDigit (hc : c.isDigit) : beginsWord c :=
  beginsWord_of_class (by decide) hc

theorem isAllowed_of_isDigit (hc : c.isDigit) : isAllowed c := by
  obtain ⟨hlow, hhigh⟩ := Char.isDigit_iff_toNat.1 hc
  exact isAllowed_of_between (Nat.le_trans (by decide) hlow) (Nat.le_trans hhigh (by decide))

theorem Decimal.word (h : Decimal w) : Word w where
  begins := by
    obtain ⟨c, rest, rfl⟩ := List.exists_cons_of_ne_nil h.ne_nil
    exact ⟨c, rest, rfl, beginsWord_of_isDigit (h.digits c List.mem_cons_self)⟩
  inner c hc := goesOn_of_beginsWord (beginsWord_of_isDigit (h.digits c hc))
  allowed c hc := isAllowed_of_isDigit (h.digits c hc)

end Words

/-! ## Values -/

section Values

variable {w : List Char}

/-- A decimal number is not a word for "no value". -/
theorem Decimal.not_null (h : Decimal w) : isNull w = false := by
  have hwords : ∀ s ∈ ["~", "null", "Null", "NULL"], ∃ c ∈ s.toList, c.isDigit = false := by
    simp
  rw [isNull, List.any_eq_false]
  intro s hs htext
  obtain ⟨c, hc, hdigit⟩ := hwords s hs
  rw [of_decide_eq_true htext] at hc
  rw [h.digits c hc] at hdigit
  cases hdigit

/-- Decimal digits are read as a decimal number. -/
theorem Decimal.whole?_eq (h : Decimal w) : whole? w = decimal? w := by
  have hbase : ∀ c rest, w = '0' :: c :: rest → c.isDigit := by
    rintro c rest rfl
    exact h.digits c (List.mem_cons_of_mem _ List.mem_cons_self)
  -- the other equations of the reader need a sign or the prefix of a base
  rw [whole?]
  · rintro rest rfl
    cases h.digits '+' List.mem_cons_self
  · exact fun digits hw => nomatch hbase 'x' digits hw
  · exact fun digits hw => nomatch hbase 'o' digits hw
  · exact fun digits hw => nomatch hbase 'b' digits hw

/-- The value of a key that is written as a decimal number. -/
theorem Decimal.value?_eq (h : Decimal w) : value? ⟨.plain, none, w⟩ = (decimal? w).map some := by
  simp only [value?, h.ne_nil, h.not_null, h.whole?_eq, decide_false, Bool.or_self,
    Bool.false_eq_true, if_false]

theorem decimal?_of_large (h : wordValues ≤ numeral 10 w) : decimal? w = none := by
  unfold decimal?
  split
  · rfl
  · rw [number?, if_neg fun hfits => Nat.not_lt.2 h hfits.2.2]

/-- A number is written without leading zeros. -/
theorem head?_toDigits {n : Nat} (hn : 0 < n) : (Nat.toDigits 10 n).head? ≠ some '0' := by
  induction n using Nat.strongRecOn with
  | ind n ih =>
    by_cases hlt : n < 10
    · rw [Nat.toDigits_of_lt_base hlt, List.head?_cons, ne_eq, Option.some.injEq,
        Nat.digitChar_eq_zero]
      omega
    · have hfront := ih (n / 10) (by omega) (by omega)
      rw [Nat.toDigits_of_base_le (by decide) (Nat.le_of_not_lt hlt), List.head?_append,
        Option.or_of_isSome (List.isSome_head?.2 Nat.toDigits_ne_nil)]
      exact hfront

theorem decimal_toDigits (n : Nat) : Decimal (Nat.toDigits 10 n) where
  ne_nil := Nat.toDigits_ne_nil
  digits _ hc := Nat.isDigit_of_mem_toDigits (by decide) (by decide) hc

theorem decimal?_toDigits {n : Nat} (hn : n < wordValues) :
    decimal? (Nat.toDigits 10 n) = some n := by
  have hdigits := (decimal_toDigits n).digits
  have hall : (Nat.toDigits 10 n).all (isDigitOf 10) = true :=
    List.all_eq_true.2 fun c hc => (isDigit_eq c).trans (hdigits c hc)
  have hnumeral : numeral 10 (Nat.toDigits 10 n) = n := by
    rw [numeral_eq_ofDigitChars hdigits, Nat.ofDigitChars_ten_toDigits]
  rw [decimal?]
  · rw [number?, hnumeral, if_pos ⟨Nat.toDigits_ne_nil, hall, hn⟩]
  · intro c rest hzero
    rcases Nat.eq_zero_or_pos n with rfl | hpos
    · cases hzero
    · exact head?_toDigits hpos (by rw [hzero, List.head?_cons])

end Values

/-! ## Records -/

section Records

variable {d : Declaration} {values values' : Values} {entries rest : List (List Char × Scalar)}
  {e : List Char × Scalar} {f : String} {key : List Char}

theorem mem_of_fieldOf? (h : fieldOf? d key = some f) :
    f ∈ d.fields ∧ d.keyOf kebab f = key := by
  have hkey := List.find?_some h
  exact ⟨List.mem_of_find?_eq_some h, of_decide_eq_true hkey⟩

theorem exists_fieldOf? (hf : f ∈ d.fields) : ∃ g, fieldOf? d (d.keyOf kebab f) = some g := by
  refine Option.isSome_iff_exists.1 (List.find?_isSome.2 ⟨f, hf, ?_⟩)
  exact decide_eq_true rfl

/-- Where the keys of fields differ, each is for its own field. -/
theorem fieldOf?_keyOf (hkeys : (d.fields.map (d.keyOf kebab)).Nodup) (hf : f ∈ d.fields) :
    fieldOf? d (d.keyOf kebab f) = some f := by
  obtain ⟨g, hg⟩ := exists_fieldOf? hf
  obtain ⟨hmem, hkey⟩ := mem_of_fieldOf? hg
  rwa [List.inj_on_of_nodup_map hkeys hmem hf hkey] at hg

theorem put_self (values : Values) (f : String) (v : Option Nat) : values.put f v f = some v :=
  if_pos rfl

theorem put_of_ne {g : String} (h : g ≠ f) (v : Option Nat) : values.put f v g = values g :=
  if_neg h

/-- **One more entry** is refused, or it is passed over, or its field has had no value and has one
now. -/
theorem enter?_cases (h : enter? d values e = some values') :
    (fieldOf? d e.1 = none ∧ d.denyUnknownFields = false ∧ values' = values) ∨
      ∃ f v, fieldOf? d e.1 = some f ∧ value? e.2 = some v ∧ values f = none ∧
        values' = values.put f v := by
  unfold enter? at h
  split at h
  next hnone =>
    split at h
    · cases h
    next hdeny => exact .inl ⟨hnone, Bool.eq_false_iff.2 hdeny, (Option.some.inj h).symm⟩
  next f hf =>
    split at h
    next v hunset hv => exact .inr ⟨f, v, hf, hv, hunset, (Option.some.inj h).symm⟩
    next => cases h

/-- An entry is refused if it may not be passed over, and its field has a value or gets none. -/
theorem enter?_eq_none (hpassed : fieldOf? d e.1 = none → d.denyUnknownFields = true)
    (hset : ∀ f v, fieldOf? d e.1 = some f → value? e.2 = some v → (values f).isSome) :
    enter? d values e = none := by
  cases hentered : enter? d values e with
  | none => rfl
  | some values' =>
    rcases enter?_cases hentered with ⟨hnone, hallow, -⟩ | ⟨f, v, hf, hv, hunset, -⟩
    · cases (hpassed hnone).symm.trans hallow
    · have hsome := hset f v hf hv
      rw [hunset] at hsome
      cases hsome

theorem enter?_of_field {v : Option Nat} (hf : fieldOf? d e.1 = some f) (hunset : values f = none)
    (hv : value? e.2 = some v) : enter? d values e = some (values.put f v) := by
  simp only [enter?, hf, hunset, hv]

theorem isSome_of_enter? (h : enter? d values e = some values') (hset : (values f).isSome) :
    (values' f).isSome := by
  rcases enter?_cases h with ⟨-, -, rfl⟩ | ⟨g, v, -, -, hunset, rfl⟩
  · exact hset
  · have hne : f ≠ g := by
      rintro rfl
      rw [hunset] at hset
      cases hset
    rwa [put_of_ne hne]

theorem foldlM_cons_of_none (h : enter? d values e = none) (rest : List (List Char × Scalar)) :
    (e :: rest).foldlM (enter? d) values = none := by
  rw [List.foldlM_cons, h]
  rfl

theorem foldlM_cons_of_some (h : enter? d values e = some values')
    (rest : List (List Char × Scalar)) :
    (e :: rest).foldlM (enter? d) values = rest.foldlM (enter? d) values' := by
  rw [List.foldlM_cons, h]
  rfl

/-- **What is refused whatever came before** refuses the record. -/
theorem record?_append_eq_none (h : ∀ values, rest.foldlM (enter? d) values = none)
    (before : List (List Char × Scalar)) : record? d (before ++ rest) = none := by
  rw [record?, List.foldlM_append]
  cases before.foldlM (enter? d) fun _ => none with
  | none => rfl
  | some values =>
    rw [Option.bind_eq_bind, Option.bind_some, h values]
    rfl

/-- So does an entry that is. -/
theorem record?_eq_none_of_mem (h : ∀ values, enter? d values e = none) (he : e ∈ entries) :
    record? d entries = none := by
  obtain ⟨before, after, rfl⟩ := List.append_of_mem he
  exact record?_append_eq_none (fun values => foldlM_cons_of_none (h values) after) before

/-- **A field that has a value** refuses a second entry, now or later. -/
theorem foldlM_again {value : Scalar} {after : List (List Char × Scalar)}
    (hf : fieldOf? d key = some f) (hset : (values f).isSome)
    (between : List (List Char × Scalar)) :
    (between ++ (key, value) :: after).foldlM (enter? d) values = none := by
  induction between generalizing values with
  | nil =>
    refine foldlM_cons_of_none (enter?_eq_none ?_ ?_) after
    · intro hnone
      cases hf.symm.trans hnone
    · intro g v hg _
      obtain rfl := Option.some.inj (hf.symm.trans hg)
      exact hset
  | cons e between ih =>
    cases hentered : enter? d values e with
    | none => exact foldlM_cons_of_none hentered _
    | some values' =>
      rw [List.cons_append, foldlM_cons_of_some hentered]
      exact ih (isSome_of_enter? hentered hset)

/-- **Entries of different fields are all entered.** -/
theorem exists_foldlM (hkeys : (entries.map Prod.fst).Nodup)
    (hentries : ∀ e ∈ entries, ∃ f, fieldOf? d e.1 = some f ∧ values f = none ∧
      (value? e.2).isSome) :
    ∃ values', entries.foldlM (enter? d) values = some values' ∧
      (∀ e ∈ entries, ∀ f, fieldOf? d e.1 = some f → values' f = value? e.2) ∧
      ∀ f, (∀ e ∈ entries, fieldOf? d e.1 ≠ some f) → values' f = values f := by
  induction entries generalizing values with
  | nil =>
    refine ⟨values, rfl, ?_, fun _ _ => rfl⟩
    rintro e ⟨⟩
  | cons e entries ih =>
    obtain ⟨hnot, hkeys⟩ := List.nodup_cons.1 hkeys
    obtain ⟨⟨f, hf, hunset, hvalue⟩, hrest⟩ := List.forall_mem_cons.1 hentries
    obtain ⟨v, hv⟩ := Option.isSome_iff_exists.1 hvalue
    -- no later entry is for the field of this one
    have hothers : ∀ e' ∈ entries, fieldOf? d e'.1 ≠ some f := by
      intro e' he' hf'
      have hkey : e'.1 = e.1 := (mem_of_fieldOf? hf').2.symm.trans (mem_of_fieldOf? hf).2
      exact hnot (List.mem_map.2 ⟨e', he', hkey⟩)
    have hstill : ∀ e' ∈ entries, ∃ g, fieldOf? d e'.1 = some g ∧ values.put f v g = none ∧
        (value? e'.2).isSome := by
      intro e' he'
      obtain ⟨g, hg, hunset', hvalue'⟩ := hrest e' he'
      have hne : g ≠ f := by
        rintro rfl
        exact hothers e' he' hg
      exact ⟨g, hg, (put_of_ne hne v).trans hunset', hvalue'⟩
    obtain ⟨values', hfold, hset, hkept⟩ := ih hkeys hstill
    refine ⟨values', ?_, List.forall_mem_cons.2 ⟨?_, hset⟩, ?_⟩
    · rw [foldlM_cons_of_some (enter?_of_field hf hunset hv), hfold]
    · intro g hg
      obtain rfl := Option.some.inj (hf.symm.trans hg)
      rw [hkept f hothers, put_self, hv]
    · intro g hg
      obtain ⟨hne, hg⟩ := List.forall_mem_cons.1 hg
      have hgf : g ≠ f := by
        rintro rfl
        exact hne hf
      rw [hkept g hg, put_of_ne hgf]

/-- An entry that names no field is refused. -/
theorem record?_unknown {value : Scalar} (hdeny : d.denyUnknownFields = true)
    (hmem : (key, value) ∈ entries) (hnone : ∀ f ∈ d.fields, key ≠ d.keyOf kebab f) :
    record? d entries = none := by
  refine record?_eq_none_of_mem (fun values => enter?_eq_none (fun _ => hdeny) ?_) hmem
  intro f v hf
  obtain ⟨hfield, hkey⟩ := mem_of_fieldOf? hf
  exact absurd hkey.symm (hnone f hfield)

/-- A second entry of a field is refused. -/
theorem record?_repeated {before between after : List (List Char × Scalar)} {value value' : Scalar}
    (hf : f ∈ d.fields) :
    record? d (before ++ (d.keyOf kebab f, value) ::
      (between ++ (d.keyOf kebab f, value') :: after)) = none := by
  refine record?_append_eq_none (fun values => ?_) before
  obtain ⟨g, hg⟩ := exists_fieldOf? hf
  cases hentered : enter? d values (d.keyOf kebab f, value) with
  | none => exact foldlM_cons_of_none hentered _
  | some values' =>
    rw [foldlM_cons_of_some hentered]
    refine foldlM_again hg ?_ between
    rcases enter?_cases hentered with ⟨hnone, -⟩ | ⟨g', v, hg', -, -, rfl⟩
    · cases hg.symm.trans hnone
    · obtain rfl := Option.some.inj (hg.symm.trans hg')
      rw [put_self]
      rfl

/-- An entry whose value is refused is refused. -/
theorem record?_refused {value : Scalar} (hf : f ∈ d.fields)
    (hmem : (d.keyOf kebab f, value) ∈ entries) (hvalue : value? value = none) :
    record? d entries = none := by
  obtain ⟨g, hg⟩ := exists_fieldOf? hf
  refine record?_eq_none_of_mem (fun values => enter?_eq_none ?_ ?_) hmem
  · intro hnone
    cases hg.symm.trans hnone
  · intro g' v _ hv
    cases hvalue.symm.trans hv

/-- Other entries are the fields of a record. -/
theorem record?_accepted (hkeys : (d.fields.map (d.keyOf kebab)).Nodup)
    (hnodup : (entries.map Prod.fst).Nodup)
    (hentries : ∀ e ∈ entries, (∃ f ∈ d.fields, e.1 = d.keyOf kebab f) ∧ (value? e.2).isSome) :
    ∃ values, record? d entries = some values ∧ ∀ f ∈ d.fields,
      (∀ value, (d.keyOf kebab f, value) ∈ entries → value? value = some (values f)) ∧
      ((∀ value, (d.keyOf kebab f, value) ∉ entries) → values f = d.absent f) := by
  have hnew : ∀ e ∈ entries, ∃ f, fieldOf? d e.1 = some f ∧ (fun _ => none : Values) f = none ∧
      (value? e.2).isSome := by
    intro e he
    obtain ⟨⟨f, hf, hkey⟩, hvalue⟩ := hentries e he
    exact ⟨f, hkey ▸ fieldOf?_keyOf hkeys hf, rfl, hvalue⟩
  obtain ⟨values, hfold, hset, hunset⟩ := exists_foldlM hnodup hnew
  refine ⟨fun f => (values f).getD (d.absent f), ?_, fun f hf => ⟨fun value hmem => ?_, ?_⟩⟩
  · rw [record?, hfold]
    rfl
  · obtain ⟨v, hv⟩ := Option.isSome_iff_exists.1 (hentries _ hmem).2
    have hread := hset _ hmem f (fieldOf?_keyOf hkeys hf)
    simp only [hread, hv, Option.getD_some]
  · intro hnone
    have hkept := hunset f fun e he hf' => hnone e.2 ((mem_of_fieldOf? hf').2 ▸ he)
    simp only [hkept, Option.getD_none]

end Records

/-! ## The theorem -/

/-- Lines of a settings file are a mapping of YAML. -/
theorem mapping?_plain (ended : Bool) {l : Line} {ls : List Line} (hls : ∀ m ∈ l :: ls, m.Plain) :
    yaml.mapping? (linesText ended (l :: ls)) =
      if ∀ m ∈ l :: ls, m.key.length ≤ 1024 then some ((l :: ls).map yaml.entryOf) else none := by
  have hwords : ∀ m ∈ l :: ls, m.OfWords := fun m hm => ⟨(hls m hm).key.word, (hls m hm).value.word⟩
  have hentries : ((l :: ls).map Line.entry).map (fun e => (e.1.text, e.2)) =
      (l :: ls).map yaml.entryOf := by
    rw [List.map_map]
    rfl
  show (mapping? (linesText ended (l :: ls))).map _ = _
  rw [mapping?_lines hwords]
  split
  · exact congrArg some hentries
  · rfl

/-- **The reader of YAML is lawful.** -/
theorem yaml_lawful : yaml.Lawful where
  lines ended l ls hls := by
    rw [mapping?_plain ended hls]
    by_cases hshort : ∀ m ∈ l :: ls, m.key.length ≤ 1024
    · exact .inl (if_pos hshort)
    · simp only [not_forall, Nat.not_le] at hshort
      obtain ⟨m, hm, hlong⟩ := hshort
      exact .inr ⟨⟨m, hm, hlong⟩, if_neg fun h => Nat.not_le.2 hlong (h m hm)⟩
  decimal n hn := by
    show value? ⟨.plain, none, (toString n).toList⟩ = some (some n)
    rw [Nat.toString_eq_ofList_toDigits, String.toList_ofList, (decimal_toDigits n).value?_eq,
      decimal?_toDigits hn]
    rfl
  overflow w hw hlarge := by
    rw [← numeral_eq_ofDigitChars hw.digits] at hlarge
    show value? ⟨.plain, none, w⟩ = none
    rw [hw.value?_eq, decimal?_of_large hlarge]
    rfl
  kebab_eq _ := rfl
  unknown _ _ _ _ hdeny hmem hnone := record?_unknown hdeny hmem hnone
  repeated _ _ _ _ _ _ _ hf := record?_repeated hf
  refused _ _ _ _ hf hmem hvalue := record?_refused hf hmem hvalue
  accepted _ _ hkeys hnodup hentries := record?_accepted hkeys hnodup hentries

end PatternSession.Config
