import XmlTemplate.Proofs.Decimal.Numeral
import XmlTemplate.Proofs.Markup.Acceptance
import XmlTemplate.Proofs.Markup.RoundTrip

/-!
# References to characters by number

The same reference to a character may stand in the content of an element and in the value of an
attribute. Its number is read by two rules: in a value neither a plus sign nor the number zero is
admitted.

* `Numbers r signed n`: the text `r` after the sharp sign writes `n`, with or without a plus sign.
* `contentChar?_eq_some_iff`, `valueChar?_eq_some_iff`: the two rules in these terms.
* `holds_inContent`, `holds_inValue`: what is read of a document with one reference.
* `sameMeaning_iff`: the references that mean the same in both places.
-/

namespace XmlTemplate.Markup

open Decimal

variable {r : List Char} {c : Char} {n : Nat}

/-! ## The number of a reference -/

/-- The text after a sharp sign writes a number: in base sixteen after an `x`, in base ten
otherwise. A plus sign may stand before the digits. -/
inductive Numbers : List Char → (signed : Bool) → Nat → Prop where
  | decimal {s : List Char} {n : Nat} : Writes 10 s n → Numbers s false n
  | hexadecimal {s : List Char} {n : Nat} : Writes 16 s n → Numbers ('x' :: s) false n
  | plusDecimal {s : List Char} {n : Nat} : Writes 10 s n → Numbers ('+' :: s) true n
  | plusHexadecimal {s : List Char} {n : Nat} : Writes 16 s n → Numbers ('x' :: '+' :: s) true n

theorem not_writes_x : ¬ Writes 10 ('x' :: r) n := by
  intro h
  obtain ⟨d, hd⟩ := h.head
  cases hd

theorem charNumber?_eq_some_iff :
    charNumber? r = some n ↔ n ≤ UInt32.size - 1 ∧ ∃ signed, Numbers r signed n := by
  unfold charNumber?
  split
  · rename_i s
    rw [readUnsigned?_eq_some_iff]
    refine and_congr_right fun _ => ⟨?_, ?_⟩
    · rintro (h | ⟨t, rfl, h⟩)
      · exact ⟨_, .hexadecimal h⟩
      · exact ⟨_, .plusHexadecimal h⟩
    · rintro ⟨_, h | h | h | h⟩
      · exact absurd h not_writes_x
      · exact .inl h
      · exact .inr ⟨_, rfl, h⟩
  · rename_i hx
    rw [readUnsigned?_eq_some_iff]
    refine and_congr_right fun _ => ⟨?_, ?_⟩
    · rintro (h | ⟨t, rfl, h⟩)
      · exact ⟨_, .decimal h⟩
      · exact ⟨_, .plusDecimal h⟩
    · rintro ⟨_, h | h | h | h⟩
      · exact .inl h
      · exact absurd rfl (hx _)
      · exact .inr ⟨_, rfl, h⟩
      · exact absurd rfl (hx _)

theorem charOf?_eq_some_iff : charOf? n = some c ↔ c.toNat = n := by
  unfold charOf?
  constructor
  · intro h
    split at h <;> cases h
    rfl
  · rintro rfl
    have hvalid : c.toNat.isValidChar := c.valid
    rw [dif_pos hvalid]
    rfl

theorem toNat_le (c : Char) : c.toNat ≤ UInt32.size - 1 :=
  Nat.le_sub_one_of_lt c.val.toNat_lt

theorem toNat_eq_zero_iff : c.toNat = 0 ↔ c = '\x00' := by
  rw [← Char.toNat_inj]
  rfl

/-- In text a reference stands for the character whose number it writes. -/
theorem contentChar?_eq_some_iff :
    contentChar? r = some c ↔ ∃ signed, Numbers r signed c.toNat := by
  simp only [contentChar?, Option.bind_eq_some_iff, charNumber?_eq_some_iff, charOf?_eq_some_iff]
  constructor
  · rintro ⟨_, ⟨-, h⟩, rfl⟩
    exact h
  · exact fun h => ⟨_, ⟨toNat_le c, h⟩, rfl⟩

/-- The number without the `x` that may stand before it. -/
def unmarked (r : List Char) : List Char :=
  match r with
  | 'x' :: s => s
  | _ => r

/-- A plus sign is the first character of the number, or the one behind the `x`. -/
theorem Numbers.signed_iff {signed : Bool} (h : Numbers r signed n) :
    signed = true ↔ (unmarked r).head? = some '+' := by
  have hsign {base : Nat} {s : List Char} (hs : Writes base s n) : s.head? ≠ some '+' := by
    intro he
    obtain ⟨t, rfl⟩ := List.head?_eq_some_iff.mp he
    exact not_writes_sign (.inl rfl) hs
  cases h with
  | decimal h =>
    have hmark : unmarked r = r := by
      unfold unmarked
      split
      · exact absurd h not_writes_x
      · rfl
    simpa [hmark] using hsign h
  | hexadecimal h => simpa [unmarked] using hsign h
  | plusDecimal h => simp [unmarked]
  | plusHexadecimal h => simp [unmarked]

/-- In a value the plus sign and the number zero are refused. -/
theorem valueChar?_eq_some_iff :
    valueChar? r = some c ↔ Numbers r false c.toNat ∧ c ≠ '\x00' := by
  have hread : valueChar? r = if (unmarked r).head? == some '+' then none
      else ((charNumber? r).filter (· != 0)).bind charOf? := rfl
  rw [hread, ne_eq, ← toNat_eq_zero_iff]
  simp only [beq_iff_eq]
  split
  · rename_i hplus
    refine ⟨nofun, fun ⟨h, _⟩ => ?_⟩
    cases h.signed_iff.mpr hplus
  · rename_i hplus
    simp only [Option.bind_eq_some_iff, Option.filter_eq_some_iff, charNumber?_eq_some_iff,
      charOf?_eq_some_iff, bne_iff_ne]
    constructor
    · rintro ⟨_, ⟨⟨-, signed, h⟩, h₀⟩, rfl⟩
      cases signed with
      | false => exact ⟨h, h₀⟩
      | true => exact absurd (h.signed_iff.mp rfl) hplus
    · exact fun ⟨h, h₀⟩ => ⟨_, ⟨⟨toNat_le c, _, h⟩, h₀⟩, rfl⟩

/-! ## Documents with one reference -/

/-- A text that ends neither a reference, nor a value, nor a tag. -/
def Referable (r : List Char) : Prop := ∀ c ∈ r, c ≠ ';' ∧ isSpecial c = false

/-- A document with a reference in the content of its root. -/
def inContent (r : String) : String := "<a>&#" ++ r ++ ";</a>"

/-- A document with a reference in the value of an attribute of its root. -/
def inValue (r : String) : String := "<a v=\"&#" ++ r ++ ";\"/>"

/-- The value of that attribute as it is written. -/
def referenceValue (r : List Char) : RawAttribute := ⟨['v'], '&' :: '#' :: (r ++ [';'])⟩

theorem toList_inContent (r : String) : (inContent r).toList =
    (Token.start ['a']).source ++
      ((Token.reference ('#' :: r.toList)).source ++ (Token.finish ['a']).source) := by
  simp [inContent, Token.source]

theorem toList_inValue (r : String) : (inValue r).toList =
    (Token.empty (['a'] ++ sourceOfAll [referenceValue r.toList])).source := by
  simp [inValue, Token.source, sourceOfAll, RawAttribute.source, referenceValue]

theorem Referable.ne {d : Char} (h : Referable r) (hd : isSpecial d = true) : ∀ c ∈ r, c ≠ d := by
  rintro c hc rfl
  cases hd.symm.trans (h c hc).2

/-- What a reference as a value stands for. -/
theorem unescapeValue_referenceValue (h : Referable r) :
    unescapeValue (referenceValue r).value =
      match valueChar? r with
      | some c => .ok [c]
      | none => .error .invalidCharacter := by
  have hends : ∀ c ∈ '#' :: r, endsName c = false := by
    intro c hc
    rcases List.mem_cons.mp hc with rfl | hc
    · rfl
    · simp [endsName, (h c hc).1, h.ne (d := '&') rfl c hc]
  have hvalue : (referenceValue r).value = '&' :: (('#' :: r) ++ ';' :: []) := rfl
  rw [hvalue, unescapeValue_reference hends, unescapeValue_nil, valueReference]
  cases valueChar? r <;> rfl

section Read

open Builder

variable {b : Builder}

/-- The tag of the root in both documents, as far as its name goes. -/
def letterTag (attributes : List Attribute) : Tag := ⟨.plain "a", attributes, none, none⟩

theorem writable_letterTag : (letterTag []).Writable :=
  .of_name (.of_plain (by decide)) none none

/-- A reference in content is read if there is a character with its number. -/
theorem decides_reference (h : Referable r) (b : Builder) :
    b.Decides (Token.reference ('#' :: r)).source (∃ c, contentChar? r = some c)
      fun b' => ∃ c, contentChar? r = some c ∧ b' = b.pushText (String.singleton c) := by
  have hlegible : Token.Legible (.reference ('#' :: r)) := by
    refine Token.legible_reference fun c hc => ?_
    rcases List.mem_cons.mp hc with rfl | hc
    · decide
    · exact ⟨(h c hc).1, h.ne rfl c hc, h.ne rfl c hc⟩
  refine ⟨fun ⟨c, hc⟩ => ?_, fun hnone => ?_⟩
  · exact after_token hlegible trivial fun place => ⟨_, .number hc, c, hc, rfl⟩
  · refine refuses_token hlegible fun place b' hf => ?_
    cases hf with
    | number hc => exact hnone ⟨_, hc⟩
    | character hs | reference hs => exact hs rfl

theorem quotable_referenceValue (h : Referable r) : ∀ a ∈ [referenceValue r], a.Quotable := by
  intro a ha
  rw [List.mem_singleton.mp ha]
  have hkey : Plain ['v'] := plain_of_isNCName (by decide)
  refine ⟨hkey, List.cons_ne_nil _ _, fun c hc => ?_⟩
  simp only [referenceValue, List.mem_cons, List.mem_append, List.not_mem_nil, or_false] at hc
  rcases hc with rfl | rfl | hc | rfl
  · decide
  · decide
  · exact h.ne rfl c hc
  · decide

/-- The tag with a reference in the value of its attribute is read if the value can be decoded. -/
theorem readTag_referenceValue (h : Referable r) {place : Place} {tag : Tag} {scope : Scope} :
    readTag .initial place (['a'] ++ sourceOfAll [referenceValue r]) = .ok (tag, scope) ↔
      ∃ c, valueChar? r = some c ∧ scope = .initial ∧
        tag = ⟨.plain "a", [⟨.plain "v", String.singleton c⟩],
          some (.ofOffset place.starts place.offset), place.document⟩ := by
  have hplain : Plain ['a'] := plain_of_isNCName (by decide)
  have hquotable := quotable_referenceValue h
  have hfault : (rawAttributes (some []) (sourceOfAll [referenceValue r])).2 = none :=
    (faultless_iff hquotable []).mpr ⟨List.nodup_singleton _, fun _ _ => List.not_mem_nil⟩
  have hattributes (offset : Nat) (attributes : List Attribute) :
      readAttributes .initial offset [referenceValue r] = .ok attributes ↔
        ∃ c, valueChar? r = some c ∧ attributes = [⟨.plain "v", String.singleton c⟩] := by
    rw [readAttributes, unescapeValue_referenceValue h]
    cases valueChar? r with
    | none => simp
    | some c =>
      have hname : Scope.ofAttribute .initial (referenceValue r).key = .ok (.plain "v") := rfl
      simp only [hname, readAttributes, Except.map, ofList_singleton, Except.ok.injEq,
        Option.some.injEq, exists_eq_left']
      exact eq_comm
  rw [readTag_eq_ok_iff, tagName_inside hplain, afterName_inside hplain,
    rawAttributes_source hquotable, rawAttributes_of_faultless hquotable hfault]
  constructor
  · obtain ⟨name, attributes, position, document⟩ := tag
    rintro ⟨hdeclare, hname, hread, -, rfl, rfl⟩
    cases hdeclare
    cases hname
    obtain ⟨c, hc, rfl⟩ := (hattributes _ _).mp hread
    exact ⟨c, hc, rfl, rfl⟩
  · rintro ⟨c, hc, rfl, rfl⟩
    exact ⟨rfl, rfl, (hattributes _ _).mpr ⟨c, hc, rfl⟩, hfault, rfl, rfl⟩

/-- The root of a document with a character in its content. -/
def contentTree (c : Char) : Node := .element (letterTag []) [.text (String.singleton c)]

/-- The root of a document with a character as the value of an attribute. -/
def valueTree (c : Char) : Node := .element (letterTag [⟨.plain "v", String.singleton c⟩]) []

/-- A document is accepted, and its only node is the given one, places aside. -/
def Accepted (uri : Option Uri) (text : String) (n : Node) : Prop :=
  ∃ d, Document.parse text uri = .ok d ∧ Node.bareAll d.children = [n]

/-- A text is no document. -/
def Rejected (uri : Option Uri) (text : String) : Prop := ∃ e, Document.parse text uri = .error e

/-- A document holds the character that was found in it, and is rejected if none was. -/
structure Holds (uri : Option Uri) (text : String) (tree : Char → Node) (found : Option Char) :
    Prop where
  accepted : ∀ c, found = some c → Accepted uri text (tree c)
  rejected : found = none → Rejected uri text

theorem Holds.accepted_iff {uri : Option Uri} {text : String} {tree : Char → Node}
    {found : Option Char} (h : Holds uri text tree found) (ht : Function.Injective tree)
    (c : Char) : Accepted uri text (tree c) ↔ found = some c := by
  refine ⟨fun ⟨d, hparse, hd⟩ => ?_, h.accepted c⟩
  cases hfound : found with
  | none =>
    obtain ⟨e, he⟩ := h.rejected hfound
    cases he.symm.trans hparse
  | some c' =>
    obtain ⟨d', hparse', hd'⟩ := h.accepted c' hfound
    cases hparse'.symm.trans hparse
    exact congrArg some (ht (List.cons.inj (hd'.symm.trans hd)).1)

theorem Holds.rejected_of_not_accepted {uri : Option Uri} {text : String} {tree : Char → Node}
    {found : Option Char} (h : Holds uri text tree found)
    (hnone : ¬ ∃ c, Accepted uri text (tree c)) : Rejected uri text :=
  h.rejected (Option.eq_none_iff_forall_ne_some.mpr fun c hc => hnone ⟨c, h.accepted c hc⟩)

/-- In content a reference is what it stands for in text. -/
theorem holds_inContent {r : String} (h : Referable r.toList) (uri : Option Uri) :
    Holds uri (inContent r) contentTree (contentChar? r.toList) := by
  have hstart : Builder.start.After (Token.start ['a']).source fun b => ∃ read scope,
      Tag.bare read = letterTag [] ∧ b = ⟨[⟨read, scope, []⟩], []⟩ := by
    refine (after_start (b := .start) writable_letterTag Agrees.initial).mono ?_
    rintro _ ⟨read, scope, hread, -, rfl⟩
    exact ⟨read, scope, hread, rfl⟩
  constructor
  · intro c hc
    have hafter : Builder.start.After (inContent r).toList fun b => ∃ read : Tag,
        read.bare = letterTag [] ∧
          b = Builder.push ⟨[], []⟩ (.element read [.text (String.singleton c)]) := by
      rw [toList_inContent]
      refine hstart.append fun b₁ ⟨read, scope, hread, hb₁⟩ => ?_
      refine ((decides_reference h b₁).reads ⟨c, hc⟩).append fun b₂ ⟨d, hd, hb₂⟩ => ?_
      obtain rfl : c = d := Option.some.inj (hc.symm.trans hd)
      subst hb₁ hb₂
      have hname : read.name.qualified = (QName.plain "a").qualified :=
        congrArg QName.qualified (name_eq_of_bare (u := letterTag []) hread)
      have hproper : (QName.plain "a").Proper := writable_letterTag.name.proper
      exact (after_finish hproper hname).mono fun b₃ hb₃ => ⟨read, hread, hb₃⟩
    have hmark : (inContent r).toList.head? ≠ some '\ufeff' := by simp [inContent]
    obtain ⟨b, ⟨read, hread, rfl⟩, hparse⟩ := parse_of_after hafter hmark uri
    refine ⟨_, hparse.trans (finish_add rfl [] uri), ?_⟩
    simp only [Node.bareAll, Node.bare, List.reverse_nil, List.nil_append, hread, contentTree]
  · intro hnone
    refine parse_of_refuses ?_ uri
    rw [toList_inContent]
    refine hstart.refuses fun b _ => ((decides_reference h b).refuses ?_).append_left
    simp [hnone]

/-- In a value a reference is what it stands for there. -/
theorem holds_inValue {r : String} (h : Referable r.toList) (uri : Option Uri) :
    Holds uri (inValue r) valueTree (valueChar? r.toList) := by
  have hlegible : Token.Legible (.empty (['a'] ++ sourceOfAll [referenceValue r.toList])) :=
    legible_emptyTag (plain_of_isNCName (by decide)) (List.cons_ne_nil _ _)
      (quotable_referenceValue h)
  constructor
  · intro c hc
    have hafter : Builder.start.After (inValue r).toList fun b => ∃ read : Tag,
        read.bare = letterTag [⟨.plain "v", String.singleton c⟩] ∧
          b = Builder.push ⟨[], []⟩ (.element read []) := by
      rw [toList_inValue]
      refine after_token hlegible trivial fun place => ?_
      exact ⟨_, .empty ((readTag_referenceValue h).mpr ⟨c, hc, rfl, rfl⟩), _, rfl, rfl⟩
    have hmark : (inValue r).toList.head? ≠ some '\ufeff' := by simp [inValue]
    obtain ⟨b, ⟨read, hread, rfl⟩, hparse⟩ := parse_of_after hafter hmark uri
    refine ⟨_, hparse.trans (finish_add rfl [] uri), ?_⟩
    simp only [Node.bareAll, Node.bare, List.reverse_nil, List.nil_append, hread, valueTree]
  · intro hnone
    refine parse_of_refuses ?_ uri
    rw [toList_inValue]
    refine refuses_token hlegible fun place b hf => ?_
    cases hf with
    | empty hread =>
      obtain ⟨c, hc, -⟩ := (readTag_referenceValue h).mp hread
      cases hnone.symm.trans hc

end Read

/-! ## The same in both places -/

theorem eq_of_singleton {c d : Char} (h : String.singleton c = String.singleton d) : c = d := by
  simpa using congrArg String.toList h

theorem contentTree_injective : Function.Injective contentTree := by
  intro c d h
  simp only [contentTree, Node.element.injEq, List.cons.injEq, Node.text.injEq] at h
  exact eq_of_singleton h.2.1

theorem valueTree_injective : Function.Injective valueTree := by
  intro c d h
  simp only [valueTree, letterTag, Node.element.injEq, Tag.mk.injEq, List.cons.injEq,
    Attribute.mk.injEq] at h
  exact eq_of_singleton h.1.2.1.1.2

/-- A reference means the same in content and in a value: it stands for the same character in both
places, or it is rejected in both. -/
structure SameMeaning (uri : Option Uri) (r : String) : Prop where
  same : ∀ c, Accepted uri (inContent r) (contentTree c) ↔ Accepted uri (inValue r) (valueTree c)
  rejected : (¬ ∃ c, Accepted uri (inContent r) (contentTree c)) →
    Rejected uri (inContent r) ∧ Rejected uri (inValue r)

section Meaning

variable {r : String} (h : Referable r.toList) (uri : Option Uri)

include h

theorem accepted_inContent_iff (c : Char) :
    Accepted uri (inContent r) (contentTree c) ↔ ∃ signed, Numbers r.toList signed c.toNat := by
  rw [(holds_inContent h uri).accepted_iff contentTree_injective, contentChar?_eq_some_iff]

theorem accepted_inValue_iff (c : Char) : Accepted uri (inValue r) (valueTree c) ↔
    Numbers r.toList false c.toNat ∧ c ≠ '\x00' := by
  rw [(holds_inValue h uri).accepted_iff valueTree_injective, valueChar?_eq_some_iff]

end Meaning

/-- **References to characters mean the same in content and in values**, unless they have a plus
sign or write the number zero. In content a reference stands for the character whose number it
writes, with a sign or without; in a value there may be no sign, and the number is not zero. Either
way a reference that stands for nothing is rejected. -/
theorem sameMeaning_iff {r : String} (h : Referable r.toList) (uri : Option Uri) :
    (SameMeaning uri r ↔
      ∀ signed c, Numbers r.toList signed c.toNat → signed = false ∧ c ≠ '\x00') ∧
    (∀ c, Accepted uri (inContent r) (contentTree c) ↔ ∃ signed, Numbers r.toList signed c.toNat) ∧
    (∀ c, Accepted uri (inValue r) (valueTree c) ↔
      Numbers r.toList false c.toNat ∧ c ≠ '\x00') ∧
    ((¬ ∃ c, Accepted uri (inContent r) (contentTree c)) → Rejected uri (inContent r)) ∧
    ((¬ ∃ c, Accepted uri (inValue r) (valueTree c)) → Rejected uri (inValue r)) := by
  have hcontent := (holds_inContent h uri).rejected_of_not_accepted
  have hvalue := (holds_inValue h uri).rejected_of_not_accepted
  refine ⟨⟨fun hsame signed c hn => ?_, fun hplain => ⟨fun c => ?_, fun hnone => ?_⟩⟩,
    accepted_inContent_iff h uri, accepted_inValue_iff h uri, hcontent, hvalue⟩
  · obtain ⟨hunsigned, hzero⟩ := (accepted_inValue_iff h uri c).mp
      ((hsame.same c).mp ((accepted_inContent_iff h uri c).mpr ⟨signed, hn⟩))
    refine ⟨Bool.eq_false_iff.mpr fun hsigned => ?_, hzero⟩
    cases hunsigned.signed_iff.mpr (hn.signed_iff.mp hsigned)
  · rw [accepted_inContent_iff h, accepted_inValue_iff h]
    constructor
    · rintro ⟨signed, hn⟩
      obtain ⟨rfl, hzero⟩ := hplain signed c hn
      exact ⟨hn, hzero⟩
    · exact fun hn => ⟨false, hn.1⟩
  · refine ⟨hcontent hnone, hvalue fun ⟨c, hc⟩ => hnone ⟨c, ?_⟩⟩
    exact (accepted_inContent_iff h uri c).mpr
      ⟨false, ((accepted_inValue_iff h uri c).mp hc).1⟩

/-- The greatest character is the same in both places, also with leading zeros and digits of either
case. -/
theorem sameMeaning_iff_greatest :
    Referable "x0010fffF".toList ∧ SameMeaning none "x0010fffF" := by
  have hr : Referable "x0010fffF".toList := Text.forall_of_all (by decide)
  have hgreatest : contentChar? "x0010fffF".toList = some (Char.ofNat 0x10ffff) := by decide
  refine ⟨hr, (sameMeaning_iff hr none).1.mpr fun signed c hn => ⟨?_, ?_⟩⟩
  · refine Bool.eq_false_iff.mpr fun hsigned => ?_
    cases hn.signed_iff.mp hsigned
  · rintro rfl
    cases hgreatest.symm.trans (contentChar?_eq_some_iff.mpr ⟨signed, hn⟩)

/-- A plus sign and the number zero are accepted in content only. -/
theorem characterReference_not_same :
    ¬ ∀ r : String, Referable r.toList → ∀ uri, SameMeaning uri r := by
  intro h
  have hr : Referable "+65".toList := Text.forall_of_all (by decide)
  have hnumber : Numbers "+65".toList true 'A'.toNat :=
    .plusDecimal (ofDigits?_eq_some_iff.mp (by decide))
  have hvalue := ((h _ hr none).same 'A').mp
    ((accepted_inContent_iff hr none 'A').mpr ⟨true, hnumber⟩)
  have hunsigned := ((accepted_inValue_iff hr none 'A').mp hvalue).1
  cases hunsigned.signed_iff.mpr (hnumber.signed_iff.mp rfl)

end XmlTemplate.Markup
