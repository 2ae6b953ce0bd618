import XmlTemplate.Proofs.Markup.Leaves

/-!
# Leaves that were scanned

The scanner ends a token at the first mark that ends tokens of its kind, so a leaf that was read
has no such mark in it.

* `Token.Scanned`, `Token.scanned_of_scan`: what the scanner ensures of a token.
* `Node.LeafText`: a leaf that could have been read.
* `instructionText_of_read`, `declarationText_of_read`, `balanced_trim`: what becomes of the text of
  a token when a leaf is made of it.
-/

namespace XmlTemplate.Markup

/-! ## Tokens -/

namespace Token

/-- What the scanner ensures: the mark that ends a token does not occur in it. -/
def Scanned : Token → Prop
  | comment chars => Text.contains ['-', '-', '>'] chars = false
  | cdata chars => Text.contains [']', ']', '>'] chars = false
  | doctype _ chars => Balanced chars
  | instruction chars => chars.head? ≠ some '>' ∧ Text.contains ['?', '>'] chars = false
  | reference name => ∀ c ∈ name, endsReference c = false
  | _ => True

theorem scanned_of_scanTag {s rest : List Char} {t : Token} (h : scanTag s = .ok (t, rest)) :
    t.Scanned := by
  unfold scanTag ofTag at h
  split at h <;> split at h
  · cases h
    trivial
  · cases h
  · split at h <;> cases h <;> trivial
  · cases h

theorem scanned_of_scanInstruction {s rest : List Char} {t : Token}
    (h : scanInstruction s = .ok (t, rest)) : t.Scanned := by
  unfold scanInstruction at h
  split at h
  · cases h
  · rename_i hs
    split at h
    · rename_i hc
      cases h
      refine ⟨fun hhead => hs ?_, Text.not_contains_of_cut? (by simp) hc⟩
      rw [Text.eq_append_of_cut? hc]
      simp [hhead]
    · cases h

theorem scanned_of_scanBang {s rest : List Char} {t : Token} (h : scanBang s = .ok (t, rest)) :
    t.Scanned := by
  have doctype_case {s : List Char} (h : scanDoctype s = .ok (t, rest)) : t.Scanned := by
    unfold scanDoctype at h
    split at h
    · split at h
      · rename_i hc
        cases h
        exact depthAfter_of_cutBalanced hc
      · cases h
    · cases h
  unfold scanBang at h
  split at h
  · unfold scanComment at h
    split at h
    · split at h
      · rename_i hc
        cases h
        exact Text.not_contains_of_cut? (by simp) hc
      · cases h
    · cases h
  · unfold scanCData at h
    split at h
    · split at h
      · rename_i hc
        cases h
        exact Text.not_contains_of_cut? (by simp) hc
      · cases h
    · cases h
  · exact doctype_case h
  · exact doctype_case h
  · cases h

theorem scanned_of_scanReference {s rest : List Char} {t : Token}
    (h : scanReference s = .ok (t, rest)) : t.Scanned := by
  unfold scanReference at h
  split at h
  · cases h
    intro c hc
    simpa using List.all_eq_true.mp List.all_takeWhile c hc
  · cases h

theorem scanned_of_scan {s rest : List Char} {t : Token} (h : scan s = .ok (t, rest)) :
    t.Scanned := by
  unfold scan at h
  split at h
  · exact scanned_of_scanBang h
  · exact scanned_of_scanInstruction h
  · exact scanned_of_scanTag h
  · exact scanned_of_scanReference h
  · cases h
    trivial
  · cases h
    trivial

end Token

/-! ## Texts of leaves -/

/-- An instruction that could have been read. -/
structure InstructionText (target data : String) : Prop where
  solid : ∀ c ∈ target.toList, isSpace c = false
  opening : (instructionText target data).toList.head? ≠ some '>'
  inside : Text.contains ['?', '>'] (instructionText target data).toList = false

/-- A declaration in which no mark ends it too early. -/
def DeclarationText (d : Declaration) : Prop :=
  Text.contains ['?', '>'] ("xml".toList ++ sourceOfAll d.parts) = false

namespace Node

/-- A leaf that could have been read: nothing in it ends it too early. -/
def LeafText : Node → Prop
  | .cdata value => Text.contains [']', ']', '>'] value.toList = false
  | .comment value => Text.contains ['-', '-', '>'] value.toList = false
  | .instruction target data => InstructionText target data
  | .doctype value => Balanced value.toList
  | .reference name => EntityName name
  | .declaration value => DeclarationText value
  | _ => True

end Node

/-! ## What is made of tokens -/

theorem endsReference_eq_false {c : Char} (h : Token.endsReference c = false) :
    c ≠ ';' ∧ c ≠ '&' ∧ c ≠ '<' := by
  simp only [Token.endsReference, Bool.or_eq_false_iff, beq_eq_false_iff_ne] at h
  exact ⟨h.1.1, h.1.2, h.2⟩

/-- White space at its ends does not matter to a text whose angle brackets are balanced. -/
theorem balanced_trim {s : List Char} (h : Balanced s) :
    Balanced (Text.trim (s.dropWhile isSpace)) := by
  have hplain {p : Char → Bool} (hp : p '<' = false ∧ p '>' = false) (s : List Char) :
      ∀ c ∈ s.takeWhile p, c ≠ '<' ∧ c ≠ '>' := by
    intro c hc
    have hpc := List.all_eq_true.mp List.all_takeWhile c hc
    constructor <;> rintro rfl <;> rw [hpc] at hp
    · cases hp.1
    · cases hp.2
  have hstart {p : Char → Bool} (hp : p '<' = false ∧ p '>' = false) {s : List Char}
      (h : Balanced s) : Balanced (s.dropWhile p) := by
    rw [Balanced, ← List.takeWhile_append_dropWhile (p := p) (l := s), depthAfter_append,
      depthAfter_of_all (hplain hp s)] at h
    exact h
  have hend {s : List Char} (h : Balanced s) : Balanced (Text.trimEnd s) := by
    have hs : s = Text.trimEnd s ++ (s.reverse.takeWhile Text.isBlank).reverse := by
      unfold Text.trimEnd
      rw [← List.reverse_append, List.takeWhile_append_dropWhile, List.reverse_reverse]
    have hall : ∀ c ∈ (s.reverse.takeWhile Text.isBlank).reverse, c ≠ '<' ∧ c ≠ '>' :=
      fun c hc => hplain (by decide) s.reverse c (List.mem_reverse.mp hc)
    rw [Balanced, hs, depthAfter_append] at h
    cases hd : depthAfter 0 (Text.trimEnd s) with
    | none =>
      rw [hd] at h
      cases h
    | some depth =>
      rw [hd, Option.bind_some, depthAfter_of_all hall] at h
      rw [Balanced, hd, h]
  exact hend (hstart (by decide) (hstart (by decide) h))

theorem not_isSpace_of_not_isBlank {c : Char} (h : Text.isBlank c = false) : isSpace c = false :=
  Bool.eq_false_iff.mpr fun hs => by rw [isBlank_of_isSpace hs] at h; cases h

/-- Nothing ends an instruction too early when white space comes between its parts. -/
theorem instructionText_of_parts {target data : String}
    (hs : ∀ c ∈ target.toList, isSpace c = false) (ho : target.toList.head? ≠ some '>')
    (ht : Text.contains ['?', '>'] target.toList = false)
    (hd : Text.contains ['?', '>'] data.toList = false) : InstructionText target data where
  solid := hs
  opening := by
    rw [toList_instructionText]
    cases htarget : target.toList with
    | nil => split <;> simp
    | cons c r =>
      rw [htarget] at ho
      simpa using ho
  inside := by
    rw [toList_instructionText]
    refine Text.not_contains_append ht ?_ ?_
    · split
      · rfl
      · rw [Text.contains, hd]
        rfl
    · split <;> simp

theorem instructionText_of_name {target data : String} (hn : isNCName target.toList = true)
    (hd : Text.contains ['?', '>'] data.toList = false) : InstructionText target data := by
  have hplain : Plain target.toList := plain_of_isNCName hn
  have hcontains : Text.contains ['?', '>'] (target.toList ++ []) = false :=
    contains_append_of_ne fun c hc => hplain.ne hc rfl
  rw [List.append_nil] at hcontains
  refine instructionText_of_parts (fun c hc => hplain.not_isSpace hc) (fun ho => ?_) hcontains hd
  exact hplain.ne (List.mem_of_mem_head? ho) rfl rfl

/-- An instruction that is read could be read again. -/
theorem instructionText_of_read {s : List Char} (ho : s.head? ≠ some '>')
    (hs : Text.contains ['?', '>'] s = false) :
    ∃ target data, readInstruction s = .instruction target data ∧ InstructionText target data := by
  have hblank : ∀ c ∈ s.takeWhile (fun c => !Text.isBlank c), isSpace c = false := fun c hc => by
    have hb := List.all_eq_true.mp List.all_takeWhile c hc
    exact not_isSpace_of_not_isBlank (by simpa using hb)
  have hsplit :
      s.takeWhile (fun c => !Text.isBlank c) ++ s.dropWhile (fun c => !Text.isBlank c) = s :=
    List.takeWhile_append_dropWhile
  unfold readInstruction Text.cutAt?
  cases hd : s.dropWhile (fun c => !Text.isBlank c) with
  | nil =>
    rw [hd, List.append_nil] at hsplit
    refine ⟨_, _, rfl, instructionText_of_parts ?_ ?_ ?_ (by decide)⟩ <;> rw [String.toList_ofList]
    · rw [← hsplit]
      exact hblank
    · exact ho
    · exact hs
  | cons c data =>
    rw [hd] at hsplit
    refine ⟨_, _, rfl, instructionText_of_parts ?_ ?_ ?_ ?_⟩ <;> rw [String.toList_ofList]
    · exact hblank
    · refine fun hhead => ho ?_
      rw [← hsplit, List.head?_append, hhead]
      rfl
    · refine Text.not_contains_of_isInfix ?_ hs
      exact (List.takeWhile_prefix _).isInfix
    · refine Text.not_contains_of_isInfix ?_ hs
      have hdata : data <:+ s :=
        ⟨s.takeWhile (fun c => !Text.isBlank c) ++ [c], by rw [List.append_assoc]; exact hsplit⟩
      exact ((List.dropWhile_suffix _).trans hdata).isInfix

/-! ## Declarations -/

theorem suffix_of_cutKey {s key rest : List Char} (h : cutKey s = .ok (key, rest)) :
    rest <:+ s := by
  unfold cutKey at h
  split at h
  · cases h
  · rename_i c r
    split at h
    · rename_i hd
      cases h
      have hsuffix : '=' :: rest <:+ r := by
        rw [← hd]
        exact (List.dropWhile_suffix _).trans (List.dropWhile_suffix _)
      exact ((List.suffix_cons ..).trans hsuffix).trans (List.suffix_cons ..)
    · cases h

theorem infix_of_cutValue {s value rest : List Char} (h : cutValue s = .ok (value, rest)) :
    value <:+: s ∧ rest <:+ s := by
  unfold cutValue at h
  split at h
  · cases h
  · rename_i q r hs
    have hr : r <:+ s := by
      refine (List.suffix_cons q r).trans ?_
      rw [← hs]
      exact List.dropWhile_suffix _
    split at h
    · split at h
      · rename_i hd
        cases h
        have hrest : rest <:+ r.dropWhile (· != q) := by
          rw [hd]
          exact List.suffix_cons ..
        exact ⟨(List.takeWhile_prefix _).isInfix.trans hr.isInfix,
          (hrest.trans (List.dropWhile_suffix _)).trans hr⟩
      · cases h
    · cases h

/-- The value of an attribute stands in the text that it was found in. -/
theorem infix_of_mem_rawAttributes (seen : Option (List (List Char))) (s : List Char) :
    ∀ a ∈ (rawAttributes seen s).1, a.value <:+: s := by
  fun_induction rawAttributes seen s with
  | case1 | case2 | case3 | case4 => exact fun a ha => by cases ha
  | case5 seen s hne key r hk hseen value rest hv others fault ho ih =>
    have hr : r <:+ s := (suffix_of_cutKey hk).trans (List.dropWhile_suffix _)
    obtain ⟨hvalue, hrest⟩ := infix_of_cutValue hv
    rw [ho] at ih
    intro a ha
    rcases List.mem_cons.mp ha with rfl | ha
    · exact hvalue.trans hr.isInfix
    · exact (ih a ha).trans (hrest.trans hr).isInfix

theorem mem_of_valueOf? {key : List Char} {r : List RawAttribute × Option AttributeFault}
    {v : String} (h : valueOf? key r = .ok (some v)) : ∃ a ∈ r.1, v.toList = a.value := by
  obtain ⟨raw, fault?⟩ := r
  simp only [valueOf?] at h
  split at h
  · rename_i a hf
    cases h
    exact ⟨a, List.mem_of_find?_eq_some hf, String.toList_ofList⟩
  · cases h
  · cases h

/-- What a declaration is read from. -/
theorem values_of_readDeclaration {s : List Char} {d : Declaration}
    (h : readDeclaration s = .ok d) :
    (∃ a ∈ (rawAttributes none s).1, d.version = String.ofList a.value) ∧
      valueOf? "encoding".toList (rawAttributes none s) = .ok d.encoding ∧
      valueOf? "standalone".toList (rawAttributes none s) = .ok d.standalone := by
  unfold readDeclaration at h
  simp only [bind, Except.bind, pure, Except.pure] at h
  split at h
  · rename_i first others fault? hraw
    split at h
    · split at h
      · cases h
      · rename_i encoding hencoding
        split at h
        · cases h
        · rename_i standalone hstandalone
          cases h
          refine ⟨⟨first, by rw [hraw]; exact List.mem_cons_self .., rfl⟩, ?_, ?_⟩
          · cases hv : valueOf? "encoding".toList (rawAttributes none s) with
            | error fault => rw [hv] at hencoding; cases hencoding
            | ok v => rw [hv] at hencoding; cases hencoding; rfl
          · cases hv : valueOf? "standalone".toList (rawAttributes none s) with
            | error fault => rw [hv] at hstandalone; cases hstandalone
            | ok v => rw [hv] at hstandalone; cases hstandalone; rfl
    · cases h
  · cases h
  · cases h

/-- The parts of a declaration stand in the text that it was read from. -/
theorem infix_of_readDeclaration {s : List Char} {d : Declaration}
    (h : readDeclaration s = .ok d) : ∀ a ∈ d.parts, a.value <:+: s := by
  obtain ⟨⟨first, hf, hversion⟩, hencoding, hstandalone⟩ := values_of_readDeclaration h
  have optional {key : String} {value : Option String}
      (hv : valueOf? key.toList (rawAttributes none s) = .ok value) :
      ∀ a ∈ value.toList.map fun v => RawAttribute.mk key.toList v.toList, a.value <:+: s := by
    intro a ha
    obtain ⟨v, hm, rfl⟩ := List.mem_map.mp ha
    rw [Option.mem_toList.mp hm] at hv
    obtain ⟨raw, hr, he⟩ := mem_of_valueOf? hv
    simp only [he]
    exact infix_of_mem_rawAttributes none s raw hr
  intro a ha
  unfold Declaration.parts at ha
  rcases List.mem_cons.mp ha with rfl | ha
  · simp only [hversion, String.toList_ofList]
    exact infix_of_mem_rawAttributes none s first hf
  · rcases List.mem_append.mp ha with ha | ha
    · exact optional hencoding a ha
    · exact optional hstandalone a ha

/-- A declaration that is read could be read again, as far as its end is concerned. -/
theorem declarationText_of_read {s : List Char} {d : Declaration} (h : readDeclaration s = .ok d)
    (hs : Text.contains ['?', '>'] s = false) : DeclarationText d := by
  have hvalue : ∀ a ∈ d.parts, Text.contains ['?', '>'] a.value = false := fun a ha =>
    Text.not_contains_of_isInfix (infix_of_readDeclaration h a ha) hs
  have hsource {a : RawAttribute} (hk : isNCName a.key = true)
      (hv : Text.contains ['?', '>'] a.value = false) :
      Text.contains ['?', '>'] a.source = false := by
    have hplain : ∀ c ∈ ' ' :: (a.key ++ ['=', '"']), c ≠ '?' := by
      intro c hc
      simp only [List.mem_cons, List.mem_append, List.not_mem_nil, or_false] at hc
      rcases hc with rfl | hc | rfl | rfl
      · decide
      · exact (plain_of_isNCName hk).ne hc rfl
      · decide
      · decide
    have he : a.source = (' ' :: (a.key ++ ['=', '"'])) ++ (a.value ++ ['"']) := by
      simp [RawAttribute.source]
    rw [he, contains_append_of_ne hplain]
    exact Text.not_contains_append hv (by decide) (by decide)
  have hall (raw : List RawAttribute) (hr : ∀ a ∈ raw, Text.contains ['?', '>'] a.source = false) :
      Text.contains ['?', '>'] (sourceOfAll raw) = false ∧ (sourceOfAll raw).head? ≠ some '>' := by
    induction raw with
    | nil => exact ⟨rfl, by simp [sourceOfAll]⟩
    | cons a rest ih =>
      obtain ⟨hrest, hhead⟩ := ih fun b hb => hr b (List.mem_cons_of_mem _ hb)
      rw [sourceOfAll, List.flatMap_cons, ← sourceOfAll]
      exact ⟨Text.not_contains_append (hr a (List.mem_cons_self ..)) hrest hhead,
        by simp [RawAttribute.source]⟩
  obtain ⟨hparts, -⟩ := hall d.parts fun a ha => hsource (isNCName_of_mem_parts ha) (hvalue a ha)
  unfold DeclarationText
  rw [contains_append_of_ne (Text.forall_of_all (by decide))]
  exact hparts

end XmlTemplate.Markup
