import XmlTemplate.Proofs.Markup.Written

/-!
# Leaves written and read

The events of nodes that are not elements, and what a builder makes of them.

* `after_comment`, `after_cdata`, `after_reference`, `after_doctype`: these become the nodes that
  they were written for, as far as they are legible.
* `readDeclaration_parts`: a declaration is read again if none of its values has a quotation mark.
* `after_instruction`: an instruction is cut at white space again. `declarationText?_eq_none` and
  `readInstruction_eq` say when the cut is where it was.
-/

namespace XmlTemplate.Markup

open Builder

variable {b : Builder}

/-! ## Comments, sections, references -/

theorem after_comment {v : String} (h : Text.contains ['-', '-', '>'] v.toList = false) :
    b.After (Event.comment v).source.toList (· = b.push (.comment v)) := by
  have he : (Event.comment v).source.toList = (Token.comment v.toList).source := by
    simp [Event.source, Token.source]
  rw [he]
  refine after_token (Token.legible_comment h) trivial fun place => ⟨_, .comment _, ?_⟩
  rw [String.ofList_toList]

theorem after_cdata {v : String} (h : Text.contains [']', ']', '>'] v.toList = false) :
    b.After (Event.cdata v).source.toList (· = b.push (.cdata v)) := by
  have he : (Event.cdata v).source.toList = (Token.cdata v.toList).source := by
    simp [Event.source, Token.source]
  rw [he]
  refine after_token (Token.legible_cdata h) trivial fun place => ⟨_, .cdata _, ?_⟩
  rw [String.ofList_toList]

/-- The name of an entity that stays a reference: neither a character nor predefined. -/
structure EntityName (name : String) : Prop where
  legible : ∀ c ∈ name.toList, c ≠ ';' ∧ c ≠ '&' ∧ c ≠ '<'
  named : name.toList.head? ≠ some '#'
  general : predefined? name.toList = none

theorem after_reference {name : String} (h : EntityName name) :
    b.After (Event.reference name).source.toList (· = b.push (.reference name)) := by
  have he : (Event.reference name).source.toList = (Token.reference name.toList).source := by
    simp [Event.source, Token.source]
  rw [he]
  refine after_token (Token.legible_reference h.legible) trivial fun place =>
    ⟨_, .reference h.named h.general, ?_⟩
  rw [String.ofList_toList]

/-! ## Doctypes -/

theorem isBlank_of_isSpace {c : Char} (h : isSpace c = true) : Text.isBlank c = true := by
  simp only [isSpace, Bool.or_eq_true, beq_iff_eq] at h
  rcases h with ((rfl | rfl) | rfl) | rfl <;> decide

/-- A text that has no white space at its ends begins with another character. -/
theorem not_isBlank_of_trim {c : Char} {r : List Char} (h : Text.trim (c :: r) = c :: r) :
    Text.isBlank c = false := by
  refine Bool.eq_false_iff.mpr fun hc => ?_
  have hlen := congrArg List.length h
  unfold Text.trim Text.trimStart Text.trimEnd at hlen
  rw [List.dropWhile_cons_of_pos hc, List.length_reverse] at hlen
  have h₁ := length_dropWhile_le Text.isBlank (r.dropWhile Text.isBlank).reverse
  have h₂ := length_dropWhile_le Text.isBlank r
  simp only [List.length_reverse, List.length_cons] at *
  omega

/-- The text of a doctype: what names the root, without white space around it. -/
structure DoctypeText (v : String) : Prop where
  balanced : Balanced v.toList
  trimmed : Text.trim v.toList = v.toList
  named : v ≠ ""

/-- The text of a doctype begins with a character that is no white space. -/
theorem DoctypeText.exists_cons {v : String} (h : DoctypeText v) :
    ∃ c r, v.toList = c :: r ∧ isSpace c = false := by
  obtain ⟨c, r, hv⟩ := List.exists_cons_of_ne_nil fun e => h.named (String.toList_inj.mp e)
  have htrim := h.trimmed
  rw [hv] at htrim
  refine ⟨c, r, hv, Bool.eq_false_iff.mpr fun hs => ?_⟩
  have hb := not_isBlank_of_trim htrim
  rw [isBlank_of_isSpace hs] at hb
  cases hb

theorem after_doctype {v : String} (h : DoctypeText v) :
    b.After (Event.doctype v).source.toList (· = b.push (.doctype v)) := by
  have he : (Event.doctype v).source.toList =
      (Token.doctype "DOCTYPE".toList (' ' :: v.toList)).source := by
    simp [Event.source, Token.source]
  obtain ⟨c, r, hv, hc⟩ := h.exists_cons
  have hdrop : (' ' :: v.toList).dropWhile isSpace = v.toList := by
    rw [List.dropWhile_cons_of_pos (by decide), hv, List.dropWhile_cons_of_neg (by simp [hc])]
  rw [he]
  refine after_token (Token.legible_doctype h.balanced.space) ?_ fun place =>
    ⟨_, .doctype _ _, ?_⟩
  · show (' ' :: v.toList).all isSpace = false
    rw [hv]
    simp [hc]
  · rw [hdrop, h.trimmed, String.ofList_toList]

/-! ## Declarations -/

namespace Declaration

/-- The parts of a declaration as they are written. -/
def parts (d : Declaration) : List RawAttribute :=
  ⟨"version".toList, d.version.toList⟩ ::
    ((d.encoding.toList.map fun v => ⟨"encoding".toList, v.toList⟩) ++
      d.standalone.toList.map fun v => ⟨"standalone".toList, v.toList⟩)

end Declaration

theorem isNCName_of_mem_parts {d : Declaration} {a : RawAttribute} (h : a ∈ d.parts) :
    isNCName a.key = true := by
  have hkeys : isNCName "version".toList = true ∧ isNCName "encoding".toList = true ∧
      isNCName "standalone".toList = true := by decide
  unfold Declaration.parts at h
  simp only [List.mem_cons, List.mem_append, List.mem_map] at h
  rcases h with rfl | ⟨v, -, rfl⟩ | ⟨v, -, rfl⟩
  · exact hkeys.1
  · exact hkeys.2.1
  · exact hkeys.2.2

theorem toList_part (key v : String) :
    (" " ++ key ++ "=\"" ++ v ++ "\"").toList = RawAttribute.source ⟨key.toList, v.toList⟩ := by
  simp [RawAttribute.source]

theorem source_declaration (d : Declaration) :
    (Event.declaration d).source.toList =
      (Token.instruction ("xml".toList ++ sourceOfAll d.parts)).source := by
  obtain ⟨version, encoding, standalone⟩ := d
  have hversion : ("<?xml version=\"" ++ version ++ "\"").toList =
      "<?xml".toList ++ RawAttribute.source ⟨"version".toList, version.toList⟩ := by
    rw [← toList_part]
    simp
  have hlist (w e s : List Char) : "<?xml".toList ++ w ++ e ++ s ++ "?>".toList =
      (Token.instruction ("xml".toList ++ (w ++ (e ++ s)))).source := by
    simp [Token.source]
  unfold Event.source Event.declarationSource Declaration.parts sourceOfAll
  simp only [String.toList_append, List.flatMap_cons, List.flatMap_append] at hversion ⊢
  rw [hversion, ← hlist]
  cases encoding <;> cases standalone <;>
    simp only [← toList_part, Option.toList_none, Option.toList_some, List.map_nil, List.map_cons,
      List.flatMap_nil, List.flatMap_cons, List.append_nil, String.toList_append,
      String.toList_empty]

theorem declarationText?_parts (d : Declaration) :
    declarationText? ("xml".toList ++ sourceOfAll d.parts) = some (sourceOfAll d.parts) := by
  obtain ⟨r, hr⟩ : ∃ r, sourceOfAll d.parts = ' ' :: r := by
    unfold Declaration.parts sourceOfAll RawAttribute.source
    exact ⟨_, List.flatMap_cons⟩
  rw [hr]
  rfl

/-- Values without quotation marks are read again. -/
theorem readDeclaration_parts {d : Declaration} (h : ∀ a ∈ d.parts, a.Quotable) :
    readDeclaration (sourceOfAll d.parts) = .ok d := by
  unfold readDeclaration
  rw [rawAttributes_source h]
  obtain ⟨version, encoding, standalone⟩ := d
  have hsame : Declaration.mk (String.ofList version.toList)
      (encoding.map fun v => String.ofList v.toList)
      (standalone.map fun v => String.ofList v.toList) = ⟨version, encoding, standalone⟩ := by
    simp only [String.ofList_toList, Option.map_id']
  refine Eq.trans ?_ (congrArg Except.ok hsame)
  cases encoding <;> cases standalone <;> rfl

/-- The usual declaration is read. -/
theorem readDeclaration_standard :
    readDeclaration (sourceOfAll Declaration.standard.parts) = .ok .standard := by
  have hvalues : ∀ a ∈ Declaration.standard.parts, '"' ∉ a.value := by decide
  refine readDeclaration_parts fun a ha => ?_
  have hkey := isNCName_of_mem_parts ha
  exact ⟨plain_of_isNCName hkey, ne_nil_of_isNCName hkey, fun c hc he => hvalues a ha (he ▸ hc)⟩

theorem after_standard :
    b.After (Event.declaration .standard).source.toList
      (· = { b with top := .declaration .standard :: b.top }) := by
  rw [source_declaration]
  exact after_token (Token.legible_instruction (by decide) (by decide)) trivial fun place =>
    ⟨_, .declaration (declarationText?_parts _) readDeclaration_standard, rfl⟩

/-! ## Instructions -/

/-- The inside of an instruction that is written. -/
def instructionText (target data : String) : String :=
  if data.isEmpty then target else target ++ " " ++ data

theorem source_instruction (v : String) :
    (Event.instruction v).source.toList = (Token.instruction v.toList).source := by
  simp [Event.source, Token.source]

theorem after_instruction {v : String} (h : Token.Legible (.instruction v.toList))
    (hd : declarationText? v.toList = none) :
    b.After (Event.instruction v).source.toList (· = b.push (readInstruction v.toList)) := by
  rw [source_instruction]
  exact after_token h trivial fun place => ⟨_, .instruction hd, rfl⟩

/-- What is read of an instruction as its target ends at the first white space. -/
structure Divided (target data : String) : Prop where
  solid : ∀ c ∈ target.toList, Text.isBlank c = false
  trimmed : ∀ c ∈ data.toList.head?, Text.isBlank c = false

theorem toList_instructionText (target data : String) :
    (instructionText target data).toList =
      target.toList ++ if data = "" then [] else ' ' :: data.toList := by
  unfold instructionText
  by_cases h : data = ""
  · subst h
    simp
  · simp [h]

theorem readInstruction_eq {target data : String} (h : Divided target data) :
    readInstruction (instructionText target data).toList = .instruction target data := by
  have ht : ∀ c ∈ target.toList, (!Text.isBlank c) = true := fun c hc => by rw [h.solid c hc]; rfl
  rw [toList_instructionText]
  unfold readInstruction Text.cutAt?
  by_cases hd : data = ""
  · rw [if_pos hd, List.append_nil]
    have hdrop : (target.toList ++ []).dropWhile (fun c => !Text.isBlank c) = [] :=
      List.dropWhile_append_of_pos ht
    rw [List.append_nil] at hdrop
    simp only [hdrop, String.ofList_toList, hd]
  · rw [if_neg hd, List.dropWhile_append_of_pos ht, List.takeWhile_append_of_pos ht,
      List.dropWhile_cons_of_neg (by decide), List.takeWhile_cons_of_neg (by decide)]
    have htrim : Text.trimStart data.toList = data.toList := by
      unfold Text.trimStart
      cases hv : data.toList with
      | nil => rfl
      | cons c r =>
        have hc := h.trimmed
        rw [hv] at hc
        rw [List.dropWhile_cons_of_neg (by simp [hc c rfl])]
    simp only [List.append_nil, htrim, String.ofList_toList]

theorem suffix_of_declarationText? {s r : List Char} (h : declarationText? s = some r) :
    r <:+ s := by
  unfold declarationText? at h
  split at h
  · split at h <;> cases h
    exact ⟨['x', 'm', 'l'], rfl⟩
  · cases h

/-- An instruction whose target is another one is not mistaken for a declaration. -/
theorem declarationText?_eq_none {target data : String}
    (h : ∀ c ∈ target.toList, isSpace c = false) (hx : target ≠ "xml") :
    declarationText? (instructionText target data).toList = none := by
  have ht : ∀ c ∈ target.toList, (!isSpace c) = true := fun c hc => by rw [h c hc]; rfl
  have hword : (instructionText target data).toList.takeWhile (!isSpace ·) = target.toList := by
    rw [toList_instructionText, List.takeWhile_append_of_pos ht]
    split
    · simp
    · rw [List.takeWhile_cons_of_neg (by decide), List.append_nil]
  unfold declarationText?
  split
  · rename_i r hs
    split
    · rename_i hr
      rw [hs] at hword
      refine absurd (String.toList_inj.mp ?_) hx
      rw [← hword]
      cases r with
      | nil => rfl
      | cons c r =>
        have hc : isSpace c = true := hr
        rw [List.takeWhile_cons_of_pos (by decide), List.takeWhile_cons_of_pos (by decide),
          List.takeWhile_cons_of_pos (by decide), List.takeWhile_cons_of_neg (by simp [hc])]
        rfl
    · rfl
  · rfl

theorem contains_append_of_ne {c : Char} {p s t : List Char} (h : ∀ d ∈ s, d ≠ c) :
    Text.contains (c :: p) (s ++ t) = Text.contains (c :: p) t := by
  induction s with
  | nil => rfl
  | cons d r ih =>
    have hd : (c == d) = false :=
      beq_eq_false_iff_ne.mpr fun e => h d (List.mem_cons_self ..) e.symm
    rw [List.cons_append, Text.contains, ih fun d hm => h d (List.mem_cons_of_mem _ hm)]
    simp [List.isPrefixOf, hd]

end XmlTemplate.Markup
