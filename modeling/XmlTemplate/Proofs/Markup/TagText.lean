import XmlTemplate.Proofs.Markup.Escape
import XmlTemplate.Proofs.Markup.Scan
import XmlTemplate.Markup.Event

/-!
# The inside of a tag that was written

The names and the values of attributes are found again where they were put.

* `RawAttribute.Quotable`: an attribute that can be written between two quotation marks.
* `rawAttributes_source`: all of them are found. `faultless_iff`: none is malformed if and only if
  no key is repeated.
* `legible_startTag`, `legible_emptyTag`: the tokens of written tags.
-/

namespace XmlTemplate.Markup

namespace RawAttribute

/-- The attribute as it stands in a tag, with a space before it. -/
def source (a : RawAttribute) : List Char := ' ' :: (a.key ++ '=' :: '"' :: (a.value ++ ['"']))

/-- The key ends at the equals sign and the value at the quotation mark. -/
structure Quotable (a : RawAttribute) : Prop where
  key : Plain a.key
  ne_nil : a.key ≠ []
  value : ∀ c ∈ a.value, c ≠ '"'

/-- What is read of an attribute before its value is decoded. -/
def of (a : Attribute) : RawAttribute := ⟨a.name.qualified.toList, (escapeValue a.value).toList⟩

theorem key_of (a : Attribute) : (of a).key = a.name.qualified.toList := by
  simp only [of]

theorem value_of (a : Attribute) : (of a).value = (escapeValue a.value).toList := by
  simp only [of]

end RawAttribute

/-- The attributes of a tag as they stand in it. -/
def sourceOfAll (raw : List RawAttribute) : List Char := raw.flatMap RawAttribute.source

theorem toList_attributesSource (attributes : List Attribute) :
    (Event.attributesSource (attributes.map fun a => (a.name.qualified, a.value))).toList =
      sourceOfAll (attributes.map RawAttribute.of) := by
  unfold Event.attributesSource sourceOfAll
  rw [String.toList_join]
  induction attributes with
  | nil => rfl
  | cons a rest ih =>
    simp only [List.map_cons, List.flatMap_cons, ih]
    simp [RawAttribute.source, RawAttribute.of]

/-! ## Attributes -/

theorem rawAttributes_nil (seen : Option (List (List Char))) :
    rawAttributes seen [] = ([], none) := by
  rw [rawAttributes]
  simp

theorem cutKey_source {a : RawAttribute} (h : a.Quotable) (s : List Char) :
    cutKey (a.key ++ '=' :: s) = .ok (a.key, s) := by
  obtain ⟨hk, hne, -⟩ := h
  have hends {c : Char} (hc : c ∈ a.key) : endsKey c = false := by
    have hs := hk.not_isSpace hc
    have he := hk.ne hc (show isDelimiter '=' = true from rfl)
    simp [endsKey, hs, he]
  cases hkey : a.key with
  | nil => exact absurd hkey hne
  | cons c r =>
    have hr : ∀ d ∈ r, (!endsKey d) = true := by
      intro d hd
      rw [hends (by rw [hkey]; exact List.mem_cons_of_mem _ hd)]
      rfl
    simp only [List.cons_append, cutKey]
    rw [List.dropWhile_append_of_pos hr, List.takeWhile_append_of_pos hr]
    simp [endsKey, isSpace]

theorem cutValue_source {value : List Char} (h : ∀ c ∈ value, c ≠ '"') (s : List Char) :
    cutValue ('"' :: (value ++ '"' :: s)) = .ok (value, s) := by
  have hv : ∀ c ∈ value, (c != '"') = true := fun c hc => bne_iff_ne.mpr (h c hc)
  simp only [cutValue]
  rw [List.dropWhile_cons_of_neg (by decide)]
  simp only [beq_self_eq_true, Bool.true_or, if_true]
  rw [List.dropWhile_append_of_pos hv, List.takeWhile_append_of_pos hv]
  simp

/-- The first attribute is found, unless its key is known. -/
theorem rawAttributes_cons {a : RawAttribute} (h : a.Quotable) (seen : Option (List (List Char)))
    (s : List Char) :
    rawAttributes seen (a.source ++ s) =
      if (seen.getD []).contains a.key then ([], some .duplicated)
      else
        (a :: (rawAttributes (seen.map (a.key :: ·)) s).1,
          (rawAttributes (seen.map (a.key :: ·)) s).2) := by
  have hspace :
      (a.source ++ s).dropWhile isSpace = a.key ++ '=' :: '"' :: (a.value ++ '"' :: s) := by
    have hhead : ∀ c ∈ a.key.head?, isSpace c = false :=
      fun c hc => h.key.not_isSpace (List.mem_of_head? hc)
    obtain ⟨c, r, hkey⟩ := List.exists_cons_of_ne_nil h.ne_nil
    rw [hkey] at hhead
    have hc : isSpace c = false := hhead c rfl
    simp only [RawAttribute.source, hkey, List.cons_append, List.append_assoc, List.nil_append]
    rw [List.dropWhile_cons_of_pos (by decide), List.dropWhile_cons_of_neg (by simp [hc])]
  have hk := cutKey_source h ('"' :: (a.value ++ '"' :: s))
  have hv := cutValue_source h.value s
  rw [rawAttributes, hspace, if_neg (by simp [h.ne_nil])]
  split
  · rename_i he
    rw [hk] at he
    cases he
  · rename_i key r he
    rw [hk] at he
    cases he
    split
    · rfl
    · split
      · rename_i he
        rw [hv] at he
        cases he
      · rename_i he
        rw [hv] at he
        cases he
        rfl

/-- All attributes are found when keys may be repeated. -/
theorem rawAttributes_source {raw : List RawAttribute} (h : ∀ a ∈ raw, a.Quotable) :
    rawAttributes none (sourceOfAll raw) = (raw, none) := by
  induction raw with
  | nil => exact rawAttributes_nil _
  | cons a rest ih =>
    rw [sourceOfAll, List.flatMap_cons, rawAttributes_cons (h a (List.mem_cons_self ..))]
    have hr := ih fun b hb => h b (List.mem_cons_of_mem _ hb)
    rw [sourceOfAll] at hr
    simp only [Option.getD_none, Option.map_none, hr]
    rfl

/-- They are found without a fault if and only if no key is repeated. -/
theorem faultless_iff {raw : List RawAttribute} (h : ∀ a ∈ raw, a.Quotable)
    (seen : List (List Char)) :
    (rawAttributes (some seen) (sourceOfAll raw)).2 = none ↔
      (raw.map (·.key)).Nodup ∧ ∀ a ∈ raw, a.key ∉ seen := by
  induction raw generalizing seen with
  | nil => simp [sourceOfAll, rawAttributes_nil]
  | cons a rest ih =>
    have hr := ih (fun b hb => h b (List.mem_cons_of_mem _ hb)) (a.key :: seen)
    rw [sourceOfAll, List.flatMap_cons, rawAttributes_cons (h a (List.mem_cons_self ..))]
    rw [sourceOfAll] at hr
    simp only [Option.getD_some, Option.map_some, List.contains_iff_mem]
    by_cases hs : a.key ∈ seen
    · rw [if_pos hs]
      simp [hs]
    · rw [if_neg hs]
      simp only [hr, List.map_cons, List.nodup_cons, List.mem_cons, List.mem_map]
      constructor
      · rintro ⟨hn, ha⟩
        refine ⟨⟨?_, hn⟩, ?_⟩
        · rintro ⟨b, hb, he⟩
          exact ha b hb (.inl he)
        · rintro b (rfl | hb)
          · exact hs
          · exact fun hm => ha b hb (.inr hm)
      · rintro ⟨⟨ha, hn⟩, hseen⟩
        refine ⟨hn, fun b hb => ?_⟩
        rintro (he | hm)
        · exact ha ⟨b, hb, he⟩
        · exact hseen b (.inr hb) hm

/-- Then all of them are found. -/
theorem rawAttributes_of_faultless {raw : List RawAttribute} (h : ∀ a ∈ raw, a.Quotable)
    {seen : List (List Char)} (hf : (rawAttributes (some seen) (sourceOfAll raw)).2 = none) :
    (rawAttributes (some seen) (sourceOfAll raw)).1 = raw := by
  induction raw generalizing seen with
  | nil => simp [sourceOfAll, rawAttributes_nil]
  | cons a rest ih =>
    rw [sourceOfAll, List.flatMap_cons, rawAttributes_cons (h a (List.mem_cons_self ..))] at hf ⊢
    split at hf
    · cases hf
    · rename_i hs
      rw [if_neg hs]
      simp only [Option.map_some] at hf ⊢
      rw [← sourceOfAll] at hf ⊢
      rw [ih (fun b hb => h b (List.mem_cons_of_mem _ hb)) hf]

/-! ## Tags -/

theorem closed_sourceOfAll {raw : List RawAttribute} (h : ∀ a ∈ raw, a.Quotable) :
    Closed (sourceOfAll raw) := by
  induction raw with
  | nil => exact Closed.nil
  | cons a rest ih =>
    obtain ⟨hk, -, hv⟩ := h a (List.mem_cons_self ..)
    have he : sourceOfAll (a :: rest) =
        ([' '] ++ (a.key ++ (['='] ++ ('"' :: (a.value ++ ['"']))))) ++ sourceOfAll rest := by
      simp [sourceOfAll, RawAttribute.source]
    rw [he]
    have hspace : Closed [' '] := Closed.of_all (Text.forall_of_all (by decide))
    have hequals : Closed ['='] := Closed.of_all (Text.forall_of_all (by decide))
    exact (hspace.append ((Closed.of_plain hk).append (hequals.append (Closed.quoted hv)))).append
      (ih fun b hb => h b (List.mem_cons_of_mem _ hb))

section Inside

variable {name : List Char} {raw : List RawAttribute}

theorem takeWhile_name (h : Plain name) :
    (name ++ sourceOfAll raw).takeWhile (!isSpace ·) = name ∧
      (name ++ sourceOfAll raw).dropWhile (!isSpace ·) = sourceOfAll raw := by
  have hn : ∀ c ∈ name, (!isSpace c) = true := by
    intro c hc
    rw [h.not_isSpace hc]
    rfl
  rw [List.takeWhile_append_of_pos hn, List.dropWhile_append_of_pos hn]
  cases raw with
  | nil => simp [sourceOfAll]
  | cons a rest => simp [sourceOfAll, RawAttribute.source, isSpace]

theorem tagName_inside (h : Plain name) : tagName (name ++ sourceOfAll raw) = name :=
  (takeWhile_name h).1

theorem afterName_inside (h : Plain name) : afterName (name ++ sourceOfAll raw) = sourceOfAll raw :=
  (takeWhile_name h).2

theorem endName_plain (h : Plain name) : endName name = name := by
  unfold endName
  cases hr : name.reverse with
  | nil => rfl
  | cons c r =>
    have hc : c ∈ name := List.mem_reverse.mp (by rw [hr]; exact List.mem_cons_self ..)
    rw [List.dropWhile_cons_of_neg (by simp [h.not_isSpace hc])]
    simp only
    rw [← hr, List.reverse_reverse]

theorem getLast?_inside (h : Plain name) :
    (name ++ sourceOfAll raw).getLast? ≠ some '/' := by
  -- The last character is one of the name, or the mark after the last value.
  have hmark (a : RawAttribute) : a.source.getLast? = some '"' := by
    have he : a.source = (' ' :: (a.key ++ '=' :: '"' :: a.value)) ++ ['"'] := by
      simp [RawAttribute.source]
    rw [he, List.getLast?_append]
    rfl
  have hlast (a : RawAttribute) (rest : List RawAttribute) :
      (sourceOfAll (a :: rest)).getLast? = some '"' := by
    induction rest generalizing a with
    | nil => simp [sourceOfAll, hmark]
    | cons b rest ih =>
      rw [sourceOfAll, List.flatMap_cons, List.getLast?_append, ← sourceOfAll, ih b]
      rfl
  rw [List.getLast?_append]
  cases raw with
  | nil =>
    intro hl
    have hl : name.getLast? = some '/' := by simpa [sourceOfAll] using hl
    exact h.ne (List.mem_of_getLast? hl) (show isDelimiter '/' = true from rfl) rfl
  | cons a rest =>
    rw [hlast a rest]
    simp

theorem legible_startTag (hn : Plain name) (hne : name ≠ []) (h : ∀ a ∈ raw, a.Quotable) :
    Token.Legible (.start (name ++ sourceOfAll raw)) := by
  have hc : Closed (name ++ sourceOfAll raw) := (Closed.of_plain hn).append (closed_sourceOfAll h)
  have hl : (name ++ sourceOfAll raw).getLast? ≠ some '/' := getLast?_inside hn
  obtain ⟨c, r, rfl⟩ := List.exists_cons_of_ne_nil hne
  exact Token.legible_start (hn c (List.mem_cons_self ..)) hc hl

theorem legible_emptyTag (hn : Plain name) (hne : name ≠ []) (h : ∀ a ∈ raw, a.Quotable) :
    Token.Legible (.empty (name ++ sourceOfAll raw)) := by
  have hc : Closed (name ++ sourceOfAll raw) := (Closed.of_plain hn).append (closed_sourceOfAll h)
  obtain ⟨c, r, rfl⟩ := List.exists_cons_of_ne_nil hne
  exact Token.legible_empty (hn c (List.mem_cons_self ..)) hc

end Inside

end XmlTemplate.Markup
