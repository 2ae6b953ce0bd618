import XmlTemplate.Expr.Builtin
import XmlTemplate.Proofs.Text.Search

/-!
# The functions that search a text

Seven functions look for occurrences of one text in another, or put together what was found between
them. What they give fits together: they all mean the leftmost occurrence, and after it the leftmost
one that does not overlap it.

* `callFunction_contains`, `callFunction_tokenize`, ...: each function on characters.
* `Searched`: what the functions give for one text, and how that fits together.
-/

namespace XmlTemplate.Expr

open Text

variable {s p : String}

/-! ## Texts as arguments -/

theorem chars_cons_zero (s : String) (args : List Sequence) :
    Builtin.chars ([.string s] :: args) 0 = s.toList :=
  congrArg String.toList String.empty_append

theorem chars_cons_succ (arg : Sequence) (args : List Sequence) (i : Nat) :
    Builtin.chars (arg :: args) (i + 1) = Builtin.chars args i := rfl

theorem toList_ne_nil (hp : p ≠ "") : p.toList ≠ [] := mt String.toList_eq_nil_iff.mp hp

theorem callFunction_contains (s p : String) :
    callFunction "contains" [[.string s], [.string p]] =
      .ok [.boolean (contains p.toList s.toList)] := by
  show Except.ok [Value.boolean (contains (Builtin.chars _ 1) (Builtin.chars _ 0))] = _
  simp only [chars_cons_zero, chars_cons_succ]

theorem callFunction_startsWith (s p : String) :
    callFunction "starts-with" [[.string s], [.string p]] =
      .ok [.boolean (p.toList.isPrefixOf s.toList)] := by
  show Except.ok [Value.boolean ((Builtin.chars _ 1).isPrefixOf (Builtin.chars _ 0))] = _
  simp only [chars_cons_zero, chars_cons_succ]

/-- The text before the first occurrence of `p`, the empty text if there is none. -/
def textBefore (p s : String) : String :=
  String.ofList (((cut? p.toList s.toList).map (·.1)).getD [])

/-- The text after the first occurrence of `p`, the empty text if there is none. -/
def textAfter (p s : String) : String :=
  String.ofList (((cut? p.toList s.toList).map (·.2)).getD [])

theorem callFunction_substringBefore (s p : String) :
    callFunction "substring-before" [[.string s], [.string p]] =
      .ok [.string (textBefore p s)] := by
  show Except.ok (Builtin.result
    (((cut? (Builtin.chars _ 1) (Builtin.chars _ 0)).map _).getD [])) = _
  simp only [chars_cons_zero, chars_cons_succ, Builtin.result, textBefore]

theorem callFunction_substringAfter (s p : String) :
    callFunction "substring-after" [[.string s], [.string p]] = .ok [.string (textAfter p s)] := by
  show Except.ok (Builtin.result
    (((cut? (Builtin.chars _ 1) (Builtin.chars _ 0)).map _).getD [])) = _
  simp only [chars_cons_zero, chars_cons_succ, Builtin.result, textAfter]

theorem callFunction_replace (hp : p ≠ "") (s t : String) :
    callFunction "replace" [[.string s], [.string p], [.string t]] =
      .ok [.string (String.ofList (replace p.toList t.toList s.toList))] := by
  show Builtin.replaceOf _ = _
  simp only [Builtin.replaceOf, chars_cons_zero, chars_cons_succ, List.isEmpty_iff,
    toList_ne_nil hp, if_false, Builtin.result]

/-- The pieces of a text between the occurrences of `p`. An empty text has none. -/
def textPieces (p s : String) : List String :=
  if s = "" then [] else (split p.toList s.toList).map String.ofList

theorem callFunction_tokenize (hp : p ≠ "") (s : String) :
    callFunction "tokenize" [[.string s], [.string p]] = .ok ((textPieces p s).map .string) := by
  show (if (Builtin.chars [[.string s], [.string p]] 1).isEmpty then _ else
    Except.ok (if (Builtin.chars [[.string s], [.string p]] 0).isEmpty then [] else
      (split _ _).map fun piece => Value.string (String.ofList piece))) = _
  simp only [chars_cons_zero, chars_cons_succ, List.isEmpty_iff, toList_ne_nil hp, if_false,
    String.toList_eq_nil_iff, textPieces, apply_ite (List.map Value.string), List.map_map,
    List.map_nil]
  rfl

theorem callFunction_stringJoin (pieces : List (List Char)) (t : String) :
    callFunction "string-join" [(pieces.map String.ofList).map .string, [.string t]] =
      .ok [.string (String.ofList (t.toList.intercalate pieces))] := by
  show Except.ok (Builtin.joinOf _) = _
  have hpieces : ((pieces.map String.ofList).map Value.string).map (fun v => v.text.toList) =
      pieces := by
    simp only [List.map_map, Function.comp_def, Value.text, String.toList_ofList, List.map_id']
  simp only [Builtin.joinOf, chars_cons_zero, chars_cons_succ, Builtin.result,
    List.getD_cons_zero, hpieces]

/-- The pieces are joined to the text with `t` in the place of the occurrences. -/
theorem callFunction_stringJoin_textPieces (hp : p ≠ "") (s t : String) :
    callFunction "string-join" [(textPieces p s).map .string, [.string t]] =
      .ok [.string (String.ofList (replace p.toList t.toList s.toList))] := by
  rw [textPieces]
  split
  · rename_i hs
    rw [hs]
    exact callFunction_stringJoin [] t
  · rw [callFunction_stringJoin, replace_eq (toList_ne_nil hp)]

/-! ## The functions together -/

/-- What the functions that search `s` for `p` give, and how it fits together: the pieces `tokens`
of `s`, whether `p` was `found`, and the texts `before` and `after` the occurrence. -/
structure Searched (s p t : String) (tokens : List String) (found : Bool)
    (before after : String) : Prop where
  tokenize : callFunction "tokenize" [[.string s], [.string p]] = .ok (tokens.map .string)
  contains : callFunction "contains" [[.string s], [.string p]] = .ok [.boolean found]
  substringBefore : callFunction "substring-before" [[.string s], [.string p]] =
    .ok [.string before]
  substringAfter : callFunction "substring-after" [[.string s], [.string p]] = .ok [.string after]
  /-- A text starts with `p` if it contains it with nothing before it. -/
  startsWith : callFunction "starts-with" [[.string s], [.string p]] =
    .ok [.boolean (found && before == "")]
  /-- The pieces make up the text. -/
  joined : callFunction "string-join" [tokens.map .string, [.string p]] = .ok [.string s]
  /-- To replace is to join the pieces with another text. -/
  replaced : ∃ result,
    callFunction "replace" [[.string s], [.string p], [.string t]] = .ok [.string result] ∧
      callFunction "string-join" [tokens.map .string, [.string t]] = .ok [.string result]
  /-- No piece has an occurrence in it. -/
  absent : ∀ token ∈ tokens,
    callFunction "contains" [[.string token], [.string p]] = .ok [.boolean false] ∧
      ¬ ∃ u v, token = u ++ p ++ v
  found_iff : found = true ↔ ∃ u v, s = u ++ p ++ v
  /-- The occurrence that is found is the first one. -/
  found_iff_first : found = true ↔
    s = before ++ p ++ after ∧ ∀ u v, s = u ++ p ++ v → before.length ≤ u.length
  /-- What stands before the occurrence is the first piece, and what stands after it is made up of
  the others. -/
  pieces_of_found : found = true → ∃ rest, tokens = before :: rest ∧
    callFunction "string-join" [rest.map .string, [.string p]] = .ok [.string after]
  pieces_of_not_found : found = false →
    before = "" ∧ after = "" ∧ tokens = if s = "" then [] else [s]

theorem eq_append_iff {u v : String} :
    s = u ++ p ++ v ↔ s.toList = u.toList ++ p.toList ++ v.toList := by
  rw [← String.toList_inj, String.toList_append, String.toList_append]

theorem contains_iff_exists : contains p.toList s.toList = true ↔ ∃ u v, s = u ++ p ++ v := by
  rw [contains_iff_isInfix]
  constructor
  · rintro ⟨u, v, h⟩
    refine ⟨String.ofList u, String.ofList v, ?_⟩
    rw [eq_append_iff, String.toList_ofList, String.toList_ofList, h]
  · rintro ⟨u, v, h⟩
    exact ⟨u.toList, v.toList, (eq_append_iff.mp h).symm⟩

/-- The functions for the parts of a text cut it at the first occurrence, if there is one. -/
theorem contains_iff_first : contains p.toList s.toList = true ↔
    s = textBefore p s ++ p ++ textAfter p s ∧
      ∀ u v, s = u ++ p ++ v → (textBefore p s).length ≤ u.length := by
  cases hcut : cut? p.toList s.toList with
  | none =>
    have hnone := cut?_eq_none_iff.mp hcut
    refine iff_of_false (by rw [hnone]; exact Bool.false_ne_true) fun h => ?_
    rw [contains_iff_exists.mpr ⟨_, _, h.1⟩] at hnone
    cases hnone
  | some parts =>
    obtain ⟨before, after⟩ := parts
    have hsome : contains p.toList s.toList = true := by
      rw [← isSome_cut?, hcut, Option.isSome_some]
    obtain ⟨heq, hfirst⟩ := cut?_eq_some_iff.mp hcut
    refine iff_of_true hsome ⟨?_, fun u v h => ?_⟩
    · rw [eq_append_iff, textBefore, textAfter, hcut]
      simpa using heq
    · rw [textBefore, hcut, ← String.length_toList, ← String.length_toList]
      simpa using hfirst _ _ (eq_append_iff.mp h)

theorem isPrefixOf_eq : p.toList.isPrefixOf s.toList =
    (contains p.toList s.toList && textBefore p s == "") := by
  rw [Bool.eq_iff_iff, Bool.and_eq_true, beq_iff_eq, isPrefixOf_iff_cut?, ← isSome_cut?, textBefore]
  cases hcut : cut? p.toList s.toList with
  | none => simp
  | some parts =>
    obtain ⟨before, after⟩ := parts
    simp

theorem not_contains_of_mem_textPieces {piece : String} (hp : p ≠ "") (h : piece ∈ textPieces p s) :
    contains p.toList piece.toList = false := by
  rw [textPieces] at h
  split at h
  · cases h
  · obtain ⟨chars, hchars, rfl⟩ := List.mem_map.mp h
    rw [String.toList_ofList]
    exact not_contains_of_mem_split (toList_ne_nil hp) hchars

theorem textPieces_of_contains (hp : p ≠ "") (h : contains p.toList s.toList = true) :
    ∃ rest, textPieces p s = textBefore p s :: rest ∧
      callFunction "string-join" [rest.map .string, [.string p]] =
        .ok [.string (textAfter p s)] := by
  rw [← isSome_cut?] at h
  obtain ⟨⟨before, after⟩, hcut⟩ := Option.isSome_iff_exists.mp h
  have hs : s ≠ "" := by
    rintro rfl
    have hparts := eq_append_of_cut? hcut
    simp [hp] at hparts
  refine ⟨(split p.toList after).map String.ofList, ?_, ?_⟩
  · rw [textPieces, if_neg hs, textBefore, hcut, split_of_cut? (toList_ne_nil hp) hcut]
    rfl
  · rw [callFunction_stringJoin, intercalate_split (toList_ne_nil hp), textAfter, hcut]
    rfl

theorem textPieces_of_not_contains (h : contains p.toList s.toList = false) :
    textBefore p s = "" ∧ textAfter p s = "" ∧ textPieces p s = if s = "" then [] else [s] := by
  have hcut := cut?_eq_none_iff.mpr h
  rw [textBefore, textAfter, textPieces, hcut, split_of_cut?_eq_none hcut]
  refine ⟨rfl, rfl, ?_⟩
  rw [List.map_singleton, String.ofList_toList]

/-- **The functions that search a text agree** on what they look for. -/
theorem search_functions_agree (hp : p ≠ "") (s t : String) :
    ∃ tokens found before after, Searched s p t tokens found before after :=
  ⟨textPieces p s, contains p.toList s.toList, textBefore p s, textAfter p s, {
    tokenize := callFunction_tokenize hp s
    contains := callFunction_contains s p
    substringBefore := callFunction_substringBefore s p
    substringAfter := callFunction_substringAfter s p
    startsWith := by rw [callFunction_startsWith, isPrefixOf_eq]
    joined := by
      rw [callFunction_stringJoin_textPieces hp, replace_self (toList_ne_nil hp),
        String.ofList_toList]
    replaced := ⟨_, callFunction_replace hp s t, callFunction_stringJoin_textPieces hp s t⟩
    absent := fun piece h => by
      have hcontains := not_contains_of_mem_textPieces hp h
      rw [callFunction_contains, ← contains_iff_exists, hcontains]
      exact ⟨rfl, Bool.false_ne_true⟩
    found_iff := contains_iff_exists
    found_iff_first := contains_iff_first
    pieces_of_found := textPieces_of_contains hp
    pieces_of_not_found := textPieces_of_not_contains }⟩

/-- Of two occurrences that overlap only the first one separates pieces. -/
theorem search_functions_agree_overlapping :
    "aa" ≠ "" ∧ Searched "aaa" "aa" "b" ["", "a"] true "" "a" := by
  have hp : "aa" ≠ "" := by decide
  obtain ⟨tokens, found, before, after, h⟩ := search_functions_agree hp "aaa" "b"
  have htokenize : callFunction "tokenize" [[.string "aaa"], [.string "aa"]] =
      .ok (["", "a"].map .string) := by cbv
  have hcontains : callFunction "contains" [[.string "aaa"], [.string "aa"]] =
      .ok [.boolean true] := rfl
  have hbefore : callFunction "substring-before" [[.string "aaa"], [.string "aa"]] =
      .ok [.string ""] := rfl
  have hafter : callFunction "substring-after" [[.string "aaa"], [.string "aa"]] =
      .ok [.string "a"] := rfl
  obtain rfl : tokens = ["", "a"] :=
    List.map_injective_iff.mpr (fun _ _ => Value.string.inj)
      (Except.ok.inj (h.tokenize.symm.trans htokenize))
  cases h.contains.symm.trans hcontains
  cases h.substringBefore.symm.trans hbefore
  cases h.substringAfter.symm.trans hafter
  exact ⟨hp, h⟩

end XmlTemplate.Expr
