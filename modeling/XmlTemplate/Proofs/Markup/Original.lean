import XmlTemplate.Proofs.Markup.Decoded
import XmlTemplate.Proofs.Markup.RoundTrip

/-!
# Trees as they were read

What the reader ensures of a tree, where the declarations around it are known: its names are what
these say, texts are neither empty nor neighbours, and leaves are cut at their white space.

* `Node.Original bindings n`: the trees.
* `Builder.Holds`: what holds of all tags and leaves that were read so far. `Builder.Fed.holds` goes
  back from what is read to what was there before.
* `original_of_parse`: a document whose names are valid consists of such trees and of declarations.
-/

namespace XmlTemplate.Markup

/-! ## Trees -/

namespace Node

mutual

/-- A tree that was read where `bindings` are declared. -/
def Original (bindings : Bindings) : Node → Prop
  | .element tag children =>
    tag.Original bindings ∧ Apart children ∧
      OriginalAll (bindings.declareAll tag.attributes) children
  | .text value => value ≠ ""
  | .instruction target data => Divided target data
  | .doctype value => Text.trim value.toList = value.toList
  | .cdata _ | .comment _ | .reference _ => True
  | .declaration _ => False

/-- The same for siblings. -/
def OriginalAll (bindings : Bindings) : List Node → Prop
  | [] => True
  | node :: rest => node.Original bindings ∧ OriginalAll bindings rest

end

theorem originalAll_iff {bindings : Bindings} {nodes : List Node} :
    OriginalAll bindings nodes ↔ ∀ n ∈ nodes, n.Original bindings := by
  induction nodes with
  | nil => simp [OriginalAll]
  | cons node rest ih => rw [OriginalAll, ih, List.forall_mem_cons]

end Node

/-! ## Neighbours -/

instance decideApart : DecidablePred Apart
  | [] => isTrue trivial
  | node :: rest =>
    have := decideApart rest
    inferInstanceAs
      (Decidable ((node.text? = none ∨ rest.head?.bind Node.text? = none) ∧ Apart rest))

theorem apart_iff {nodes : List Node} :
    Apart nodes ↔ nodes.IsChain fun n m => n.text? = none ∨ m.text? = none := by
  induction nodes with
  | nil => simp [Apart]
  | cons n rest ih =>
    cases rest with
    | nil => simp [Apart]
    | cons m others =>
      rw [Apart, ih, List.isChain_cons_cons]
      rfl

theorem Apart.reverse {nodes : List Node} (h : Apart nodes) : Apart nodes.reverse := by
  rw [apart_iff] at h ⊢
  rw [List.isChain_reverse]
  exact h.imp fun _ _ => Or.symm

/-- A text is joined to the text before it. -/
theorem Apart.pushNode {nodes : List Node} (h : Apart nodes) (n : Node) :
    Apart (Markup.pushNode nodes n) := by
  unfold Markup.pushNode
  split
  · exact ⟨.inr (h.1.resolve_left (by simp [Node.text?])), h.2⟩
  · rename_i hnot
    refine ⟨?_, h⟩
    cases n with
    | text v =>
      refine .inr ?_
      cases nodes with
      | nil => rfl
      | cons m rest =>
        cases m with
        | text w => exact absurd rfl (hnot w rest v rfl)
        | _ => rfl
    | _ => exact .inl rfl

/-- What holds of texts that are not empty holds of what they are joined to. -/
theorem forall_mem_pushNode {P : Node → Prop} (ht : ∀ v, v ≠ "" → P (.text v)) {nodes : List Node}
    (h : ∀ n ∈ nodes, P n) {s : String} (hs : s ≠ "") : ∀ n ∈ pushNode nodes (.text s), P n := by
  unfold pushNode
  split
  · rename_i a rest b he
    cases he
    have hne : a ++ s ≠ "" := by
      intro he
      have hlist := congrArg String.toList he
      rw [String.toList_append] at hlist
      refine hs (String.toList_inj.mp ?_)
      rw [(List.append_eq_nil_iff.mp hlist).2]
      rfl
    exact List.forall_mem_cons.mpr ⟨ht _ hne, fun n hn => h n (List.mem_cons_of_mem _ hn)⟩
  · exact List.forall_mem_cons.mpr ⟨ht s hs, h⟩

/-! ## Leaves -/

theorem trim_trim (s : List Char) : Text.trim (Text.trim s) = Text.trim s := by
  have hinitial : Text.trim s <+: Text.trimStart s := List.rdropWhile_prefix Text.isBlank _
  have hstart : Text.trimStart (Text.trim s) = Text.trim s := by
    refine List.dropWhile_eq_self_iff.mpr fun hl => ?_
    have hpos : 0 < (Text.trimStart s).length := hl.trans_le hinitial.length_le
    have hfirst : ¬ Text.isBlank (Text.trimStart s)[0] :=
      List.dropWhile_get_zero_not Text.isBlank s hpos
    rwa [hinitial.getElem hl]
  calc Text.trim (Text.trim s) = Text.trimEnd (Text.trim s) := congrArg Text.trimEnd hstart
    _ = Text.trim s := List.rdropWhile_idempotent Text.isBlank _

/-- An instruction is divided where it is cut. -/
theorem divided_readInstruction (s : List Char) :
    ∃ target data, readInstruction s = .instruction target data ∧ Divided target data := by
  unfold readInstruction Text.cutAt?
  cases hdrop : s.dropWhile (!Text.isBlank ·) with
  | nil =>
    refine ⟨_, _, rfl, fun c hc => ?_, fun c hc => by cases hc⟩
    rw [String.toList_ofList] at hc
    simpa using List.dropWhile_eq_nil_iff.mp hdrop c hc
  | cons d after =>
    refine ⟨_, _, rfl, fun c hc => ?_, fun c hc => ?_⟩
    · rw [String.toList_ofList] at hc
      simpa using List.mem_takeWhile_imp hc
    · have hfirst := List.head?_dropWhile_not Text.isBlank after
      rw [String.toList_ofList, Text.trimStart, Option.mem_def] at hc
      rw [hc] at hfirst
      simpa using hfirst

/-! ## What was read so far -/

namespace Builder

/-- All tags that were read satisfy `Q`, and all leaves `L`. -/
def Holds (Q : Tag → Prop) (L : Node → Prop) (b : Builder) : Prop :=
  (∀ e ∈ b.opened, Q e.tag ∧ ∀ n ∈ e.children, n.All Q L) ∧ ∀ n ∈ b.top, n.All Q L

section Holds

variable {Q : Tag → Prop} {L : Node → Prop} {b : Builder}

theorem holds_push {n : Node} : (b.push n).Holds Q L ↔ n.All Q L ∧ b.Holds Q L := by
  obtain ⟨opened, top⟩ := b
  cases opened with
  | nil => simp [Holds, push]
  | cons e rest =>
    simp only [Holds, push, List.forall_mem_cons]
    tauto

theorem holds_pushText (hL : ∀ v, L (.text v)) {s : String} :
    (b.pushText s).Holds Q L ↔ b.Holds Q L := by
  have hnodes (nodes : List Node) :
      (∀ n ∈ pushNode nodes (.text s), n.All Q L) ↔ ∀ n ∈ nodes, n.All Q L := by
    unfold pushNode
    split <;> simp [Node.All, hL]
  obtain ⟨opened, top⟩ := b
  cases opened with
  | nil => simp only [Holds, pushText, hnodes]
  | cons e rest => simp only [Holds, pushText, List.forall_mem_cons, hnodes]

theorem holds_close {e : OpenElement} {rest : List OpenElement} {top : List Node} :
    (Builder.push ⟨rest, top⟩ (.element e.tag e.children.reverse)).Holds Q L ↔
      Holds Q L ⟨e :: rest, top⟩ := by
  rw [holds_push]
  simp only [Holds, Node.All, Node.allOf_iff, List.mem_reverse, List.forall_mem_cons]
  tauto

/-- What holds after a token held before it. -/
theorem Fed.holds {b' : Builder} {place : Place} {t : Token} (hf : b.Fed place t b')
    (h : b'.Holds Q fun _ => True) : b.Holds Q fun _ => True := by
  cases hf with
  | text | number | character => exact (holds_pushText fun _ => trivial).mp h
  | reference | empty | comment | cdata | doctype | instruction => exact (holds_push.mp h).2
  | start => exact ⟨(List.forall_mem_cons.mp h.1).2, h.2⟩
  | finish ho =>
    obtain ⟨opened, top⟩ := b
    cases ho
    exact holds_close.mp h
  | declaration => exact ⟨h.1, (List.forall_mem_cons.mp h.2).2⟩

/-- What holds of a document held of everything that was read of it. -/
theorem holds_of_run {starts : List Nat} {uri : Option Uri} {l : Lexer} {d : Document}
    (hr : b.run starts uri l = .ok d) (h : ∀ n ∈ d.children, n.All Q fun _ => True) :
    b.Holds Q fun _ => True := by
  fun_induction Builder.run starts uri b l with
  | case1 | case3 => cases hr
  | case2 b l hnext =>
    obtain ⟨ho, -, rfl⟩ := finish_eq_ok_iff.mp hr
    refine ⟨fun e he => ?_, fun n hn => h n (List.mem_reverse.mpr hn)⟩
    rw [ho] at he
    cases he
  | case4 b l t l' hnext b' hfeed ih => exact (feed_eq_ok_iff.mp hfeed).holds (ih hr)

end Holds

/-! ## What the reader ensures -/

/-- What is declared in the open elements. -/
def within : List OpenElement → Bindings
  | [] => []
  | e :: rest => (within rest).declareAll e.tag.attributes

end Builder

/-- An open element that was read where `bindings` are declared. -/
structure OpenElement.Original (bindings : Bindings) (e : OpenElement) : Prop where
  tag : e.tag.Original bindings
  decodes : Decodes (bindings.declareAll e.tag.attributes) e.scope
  sound : e.scope.Sound
  children : ∀ n ∈ e.children, n.Original (bindings.declareAll e.tag.attributes)
  apart : Apart e.children

/-- A text that was read is not empty. -/
theorem Token.ofList_ne_empty {chars : List Char} (h : Token.source (.text chars) ≠ []) :
    String.ofList chars ≠ "" :=
  fun he => h (by simpa [Token.source] using congrArg String.toList he)

namespace Builder

/-- Each of the open elements was read where those around it declare what they do. -/
def Nested : List OpenElement → Prop
  | [] => True
  | e :: rest => e.Original (within rest) ∧ Nested rest

/-- A tree that was read at the top level, or a declaration. -/
def TopOriginal (n : Node) : Prop := n.Original [] ∨ ∃ v, n = .declaration v

/-- Everything so far is as it was read. -/
structure Original (b : Builder) : Prop where
  opened : Nested b.opened
  top : ∀ n ∈ b.top, TopOriginal n

namespace Original

variable {b : Builder}

theorem start : Builder.start.Original := ⟨trivial, fun _ h => (List.not_mem_nil h).elim⟩

theorem scope (h : b.Original) : Decodes (within b.opened) b.scope ∧ b.scope.Sound := by
  obtain ⟨opened, top⟩ := b
  cases opened with
  | nil => exact ⟨.initial, .initial⟩
  | cons e rest => exact ⟨h.opened.1.decodes, h.opened.1.sound⟩

theorem push (h : b.Original) {n : Node} (hn : n.Original (within b.opened))
    (ht : n.text? = none) : (b.push n).Original := by
  obtain ⟨opened, top⟩ := b
  cases opened with
  | nil => exact ⟨h.opened, List.forall_mem_cons.mpr ⟨.inl hn, h.top⟩⟩
  | cons e rest =>
    obtain ⟨he, hrest⟩ := h.opened
    refine ⟨⟨⟨he.tag, he.decodes, he.sound, List.forall_mem_cons.mpr ⟨hn, he.children⟩, ?_⟩, hrest⟩,
      h.top⟩
    exact ⟨.inl ht, he.apart⟩

theorem pushText (h : b.Original) {s : String} (hs : s ≠ "") : (b.pushText s).Original := by
  obtain ⟨opened, top⟩ := b
  cases opened with
  | nil => exact ⟨h.opened, forall_mem_pushNode (fun _ hv => .inl hv) h.top hs⟩
  | cons e rest =>
    obtain ⟨he, hrest⟩ := h.opened
    exact ⟨⟨⟨he.tag, he.decodes, he.sound, forall_mem_pushNode (fun _ hv => hv) he.children hs,
      he.apart.pushNode _⟩, hrest⟩, h.top⟩

/-- Closing the innermost element makes a tree of it. -/
theorem close {e : OpenElement} {rest : List OpenElement} {top : List Node}
    (h : Original ⟨e :: rest, top⟩) :
    (Builder.push ⟨rest, top⟩ (.element e.tag e.children.reverse)).Original := by
  obtain ⟨he, hrest⟩ := h.opened
  have hchildren : Node.OriginalAll ((within rest).declareAll e.tag.attributes)
      e.children.reverse :=
    Node.originalAll_iff.mpr fun n hn => he.children n (List.mem_reverse.mp hn)
  have helement : (Node.element e.tag e.children.reverse).Original (within rest) :=
    ⟨he.tag, he.apart.reverse, hchildren⟩
  have hinner : Original ⟨rest, top⟩ := ⟨hrest, h.top⟩
  exact hinner.push helement rfl

/-- One more token whose names are valid is read where it stands. -/
theorem fed (h : b.Original) {b' : Builder} {place : Place} {t : Token} (ht : t.source ≠ [])
    (hf : b.Fed place t b') (hn : b'.Holds Tag.Named fun _ => True) : b'.Original := by
  have hchar (c : Char) : String.singleton c ≠ "" := by simp
  obtain ⟨hdecodes, hsound⟩ := h.scope
  cases hf with
  | text chars =>
    exact h.pushText (Token.ofList_ne_empty ht)
  | number | character => exact h.pushText (hchar _)
  | reference | comment | cdata => exact h.push trivial rfl
  | start hr =>
    have hnamed : Tag.Named _ := (List.forall_mem_cons.mp hn.1).1.1
    obtain ⟨htag, hwithin⟩ := original_of_readTag hdecodes hsound hr hnamed
    exact ⟨⟨⟨htag, hwithin, (readTag_proper hsound hr).1, fun _ hm => (List.not_mem_nil hm).elim,
      trivial⟩, h.opened⟩, h.top⟩
  | empty hr =>
    have hnamed : Tag.Named _ := (holds_push.mp hn).1.1
    exact h.push ⟨(original_of_readTag hdecodes hsound hr hnamed).1, trivial, trivial⟩ rfl
  | finish ho =>
    obtain ⟨opened, top⟩ := b
    cases ho
    exact h.close
  | doctype keyword chars =>
    refine h.push ?_ rfl
    show Text.trim (String.ofList _).toList = _
    rw [String.toList_ofList, trim_trim]
  | declaration _ hd => exact ⟨h.opened, List.forall_mem_cons.mpr ⟨.inr ⟨_, rfl⟩, h.top⟩⟩
  | @instruction chars hi =>
    obtain ⟨target, data, he, hdivided⟩ := divided_readInstruction chars
    rw [he]
    exact h.push hdivided rfl

/-- So is the rest of a document. -/
theorem run (h : b.Original) {starts : List Nat} {uri : Option Uri} {l : Lexer} {d : Document}
    (hr : b.run starts uri l = .ok d) (hn : ∀ n ∈ d.children, n.Named) :
    ∀ n ∈ d.children, TopOriginal n := by
  fun_induction Builder.run starts uri b l with
  | case1 | case3 => cases hr
  | case2 b l hnext =>
    obtain ⟨-, -, rfl⟩ := finish_eq_ok_iff.mp hr
    exact fun n hm => h.top n (List.mem_reverse.mp hm)
  | case4 b l t l' hnext b' hfeed ih =>
    obtain ⟨hne, hscan, -, -⟩ := scan_of_next hnext
    have hsource := Token.source_ne_nil_of_scan hne hscan
    exact ih (h.fed hsource (feed_eq_ok_iff.mp hfeed) (holds_of_run hr hn)) hr

end Original

end Builder

/-- A document whose names are valid consists of trees that were read, and of declarations. -/
theorem original_of_parse {text : String} {uri : Option Uri} {d : Document}
    (h : Document.parse text uri = .ok d) (hn : ∀ n ∈ d.children, n.Named) :
    ∀ n ∈ d.children, Builder.TopOriginal n :=
  Builder.Original.start.run h hn

end XmlTemplate.Markup
