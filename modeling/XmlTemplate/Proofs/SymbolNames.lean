import XmlTemplate.Command.Definition
import XmlTemplate.Proofs.Expr.Variables
import XmlTemplate.Proofs.Interpolation.Segments

/-!
# Names of symbols

A symbol is defined on the command line and referred to in texts and in expressions. Each of the
three reads its name in its own way, and they agree on what a name is.

* `isName_iff_isSymbolName`: the classes of characters.
* `segments_reference_iff`, `read_definition`, `isSymbolName_of_read`: texts and definitions.
* `symbolName_tfae`: what can be defined can be referred to, and nothing else.
-/

namespace XmlTemplate

open Interpolation

variable {n : String}

/-- Variables of expressions begin and go on with the characters of symbol names. -/
theorem isName_iff_isSymbolName (s : List Char) :
    Expr.isName Expr.Grammar.isNameStart Expr.Grammar.isWordChar s = true ↔
      isSymbolName s = true := by
  cases s <;> rfl

/-- The characters of symbol names lie between the hyphen and the last letter. -/
theorem toNat_of_isSymbolChar {c : Char} (h : isSymbolChar c = true) :
    45 ≤ c.toNat ∧ c.toNat ≤ 122 := by
  simp only [isSymbolChar, Char.isAlphanum, Char.isAlpha, Char.isUpper, Char.isLower, Char.isDigit,
    Bool.or_eq_true, Bool.and_eq_true, decide_eq_true_eq, beq_iff_eq, ge_iff_le,
    UInt32.le_iff_toNat_le] at h
  rcases h with ((((h | h) | h) | rfl) | rfl) | rfl
  · exact ⟨le_trans (by decide) h.1, le_trans h.2 (by decide)⟩
  · exact ⟨le_trans (by decide) h.1, le_trans h.2 (by decide)⟩
  · exact ⟨le_trans (by decide) h.1, le_trans h.2 (by decide)⟩
  all_goals decide

theorem not_isBlank_of_isSymbolChar {c : Char} (h : isSymbolChar c = true) :
    Text.isBlank c = false := by
  have hrange := toNat_of_isSymbolChar h
  simp [Text.isBlank]
  omega

/-- A name in braces is the symbol of this name exactly if it is a symbol name. -/
theorem segments_reference_iff :
    segments (reference n) = [.symbol n] ↔ isSymbolName n.toList = true := by
  refine ⟨fun h => ?_, segments_reference⟩
  have hmem : .symbol n ∈ segments (reference n) := h ▸ List.mem_singleton_self _
  exact isSymbolName_of_mem_segments hmem

namespace Command.Definition

/-- A name has no equals sign and no white space, so that it is found whatever its value is. -/
theorem read_definition (h : isSymbolName n.toList = true) (v : String) :
    read (n ++ "=" ++ v) = .ok ⟨n, v⟩ := by
  have hchar := isSymbolChar_of_isSymbolName h
  have hequals : ∀ c ∈ n.toList, (c == '=') = false := fun c hc =>
    beq_eq_false_iff_ne.mpr (Expr.Grammar.ne_of_class (hchar c hc) rfl)
  have htext : (n ++ "=" ++ v).toList = n.toList ++ '=' :: v.toList := by simp
  have hparts : parts (n ++ "=" ++ v).toList = (n.toList, v.toList) := by
    rw [parts, htext, Text.cutAt?_append hequals (beq_self_eq_true '='), Option.getD_some]
  have htrim : Text.trim n.toList = n.toList :=
    Text.trim_of_forall fun c hc => not_isBlank_of_isSymbolChar (hchar c hc)
  simp only [read, hparts, htrim, h, if_true, String.ofList_toList]

/-- What is defined has a symbol name. -/
theorem isSymbolName_of_read {text v : String} (h : read text = .ok ⟨n, v⟩) :
    isSymbolName n.toList = true := by
  rw [read] at h
  dsimp only at h
  split at h
  · rename_i hname
    cases h
    rwa [String.toList_ofList]
  · cases h

end Command.Definition

/-- **What can be defined can be referred to, and nothing else.** A text is a symbol name if and
only if it is read as a reference when it stands in braces, as a variable when it stands behind a
dollar sign, and as the name in a definition of any value. No other names come out of any text,
expression or definition. -/
theorem symbolName_tfae (n : String) :
    List.TFAE [isSymbolName n.toList = true,
      segments (reference n) = [.symbol n],
      Expr.parse? ('$' :: n.toList) = some (.var n),
      ∀ v, Command.Definition.read (n ++ "=" ++ v) = .ok ⟨n, v⟩,
      ∃ text, .symbol n ∈ segments text,
      ∃ text e, Expr.parse? text = some e ∧ n ∈ e.variableNames,
      ∃ text v, Command.Definition.read text = .ok ⟨n, v⟩] := by
  tfae_have 1 ↔ 2 := segments_reference_iff.symm
  tfae_have 1 ↔ 3 :=
    (isName_iff_isSymbolName n.toList).symm.trans (Expr.parse?_reference_iff n).symm
  tfae_have 1 → 4 := Command.Definition.read_definition
  tfae_have 4 → 7 := fun h => ⟨_, "", h ""⟩
  tfae_have 7 → 1 := fun ⟨_, _, h⟩ => Command.Definition.isSymbolName_of_read h
  tfae_have 2 → 5 := fun h => ⟨reference n, h ▸ List.mem_singleton_self _⟩
  tfae_have 5 → 1 := fun ⟨_, h⟩ => isSymbolName_of_mem_segments h
  tfae_have 3 → 6 := fun h => ⟨_, _, h, List.mem_eraseDups.mpr (List.mem_singleton_self n)⟩
  tfae_have 6 → 1 := fun ⟨_, _, h, hm⟩ =>
    (isName_iff_isSymbolName n.toList).mp (Expr.isName_of_mem_variableNames h hm)
  tfae_finish

end XmlTemplate
