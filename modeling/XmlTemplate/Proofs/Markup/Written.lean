import XmlTemplate.Markup.Printer
import XmlTemplate.Proofs.Markup.Tags

/-!
# The text of a tree

What is written for a list of nodes is the text of their events, one after the other, with line
breaks between some of them.

* `Node.written`: the events of a node from the first to the last. `Node.events_eq` says that these
  are the events that the writer collects.
* `Broken`: events with line breaks between them, which are text themselves. `Parted`: the line
  breaks stand only where no text is next to them.
* `toList_printNodes`, `toList_print`: what is printed is the text of such events; without
  indentation nothing is put between them.
-/

namespace XmlTemplate.Markup

/-! ## Events in order -/

namespace Node

mutual

/-- The events of a node where these bindings are in force. -/
def written (bindings : Bindings) : Node → List Event
  | .element tag children =>
    let attributes := (writtenAttributes bindings tag).map fun a => (a.name.qualified, a.value)
    if children.isEmpty then [.empty tag.name.qualified attributes]
    else
      .start tag.name.qualified attributes ::
        (writtenAll (repairs bindings tag).1 children ++ [.finish tag.name.qualified])
  | .text value => [.text value]
  | .cdata value => [.cdata value]
  | .comment value => [.comment value]
  | .instruction target data =>
    [.instruction (if data.isEmpty then target else target ++ " " ++ data)]
  | .doctype value => [.doctype value]
  | .reference name => [.reference name]
  | .declaration value => [.declaration value]

/-- The events of siblings. -/
def writtenAll (bindings : Bindings) : List Node → List Event
  | [] => []
  | node :: rest => node.written bindings ++ writtenAll bindings rest

end

mutual

theorem pushEvents_eq (bindings : Bindings) : ∀ (n : Node) (before : List Event),
    n.pushEvents bindings before = (n.written bindings).reverse ++ before
  | .element tag children, before => by
    simp only [pushEvents, written, writtenAttributes]
    split
    · rfl
    · rw [pushAllEvents_eq]
      simp
  | .text _, _ | .cdata _, _ | .comment _, _ | .instruction .., _ | .doctype _, _
  | .reference _, _ | .declaration _, _ => rfl

theorem pushAllEvents_eq (bindings : Bindings) : ∀ (nodes : List Node) (before : List Event),
    pushAllEvents bindings nodes before = (writtenAll bindings nodes).reverse ++ before
  | [], _ => rfl
  | node :: rest, before => by
    rw [pushAllEvents, pushAllEvents_eq bindings rest, pushEvents_eq bindings node, writtenAll]
    simp

end

theorem events_eq (nodes : List Node) : events nodes = writtenAll [] nodes := by
  unfold events
  rw [pushAllEvents_eq]
  simp

end Node

/-! ## Texts of events -/

/-- The text of a sequence of events. -/
def sources (es : List Event) : List Char := es.flatMap (·.source.toList)

theorem sources_cons (e : Event) (es : List Event) :
    sources (e :: es) = e.source.toList ++ sources es := rfl

theorem sources_append (es fs : List Event) : sources (es ++ fs) = sources es ++ sources fs :=
  List.flatMap_append

/-- Text that stands between two lines. -/
def isLineBreak (v : String) : Prop := v ≠ "" ∧ ∀ c ∈ v.toList, c = '\n' ∨ c = ' '

/-- The second events are the first ones with line breaks in front of some of them. -/
inductive Broken : List Event → List Event → Prop where
  | nil : Broken [] []
  | cons {es fs} (e : Event) : Broken es fs → Broken (e :: es) (e :: fs)
  | line {es fs} {v : String} (e : Event) : isLineBreak v → Broken es fs →
    Broken (e :: es) (.text v :: e :: fs)

/-- The same where a line may be broken between two events only of which neither is text. The first
flag says whether the event before them is no text, the last one whether the last of them is. -/
inductive Parted : Bool → List Event → List Event → Bool → Prop where
  | nil (f : Bool) : Parted f [] [] f
  | cons {f g : Bool} {es fs : List Event} (e : Event) :
    Parted (!e.isText) es fs g → Parted f (e :: es) (e :: fs) g
  | line {g : Bool} {es fs : List Event} {v : String} (e : Event) : e.isText = false →
    isLineBreak v → Parted true es fs g → Parted true (e :: es) (.text v :: e :: fs) g

theorem Parted.broken {f g : Bool} {es fs : List Event} (h : Parted f es fs g) : Broken es fs := by
  induction h with
  | nil => exact .nil
  | cons e _ ih => exact ih.cons e
  | line e _ hv _ ih => exact ih.line e hv

/-- Line breaks stand as they are. -/
theorem escapeText_lineBreak {v : String} (h : isLineBreak v) : escapeText v = v := by
  have plain (s : List Char) (hs : ∀ c ∈ s, c = '\n' ∨ c = ' ') : s.flatMap escapeTextChar = s := by
    induction s with
    | nil => rfl
    | cons c r ih =>
      rw [List.flatMap_cons, ih fun d hd => hs d (List.mem_cons_of_mem _ hd)]
      rcases hs c (List.mem_cons_self ..) with rfl | rfl <;> rfl
  rw [← String.toList_inj, toList_escapeText, plain _ h.2]

theorem lineBreak_eq (indent : Option Nat) (page : Page) (depth : Nat) (e : Event) :
    page.lineBreak indent depth e = "" ∨ isLineBreak (page.lineBreak indent depth e) ∧
      page.breakable = true ∧ e.isText = false := by
  unfold Page.lineBreak
  split
  · split
    · rename_i hbreak
      rw [Bool.and_eq_true, Bool.not_eq_true'] at hbreak
      refine .inr ⟨⟨fun he => ?_, fun c hc => ?_⟩, hbreak⟩
      · have := congrArg String.toList he
        simp at this
      · simp only [String.toList_append, String.toList_ofList, List.mem_append] at hc
        rcases hc with hc | hc
        · exact .inl (List.mem_singleton.mp hc)
        · exact .inr (List.eq_of_mem_replicate hc)
    · exact .inl rfl
  · exact .inl rfl

/-- A page is the text of what was written on it, with line breaks. -/
theorem toList_writeAll (indent : Option Nat) (es : List Event) (page : Page) :
    ∃ fs g, Parted page.breakable es fs g ∧ (indent = none → fs = es) ∧
      (page.writeAll indent es).text.toList = page.text.toList ++ sources fs := by
  induction es generalizing page with
  | nil => exact ⟨[], _, .nil _, fun _ => rfl, by simp [Page.writeAll, sources]⟩
  | cons e rest ih =>
    obtain ⟨fs, g, hp, hnone, ht⟩ := ih (page.write indent e)
    have hstep :
        page.writeAll indent (e :: rest) = (page.write indent e).writeAll indent rest := rfl
    obtain ⟨depth, hpage⟩ : ∃ depth, (page.write indent e).text =
        page.text ++ page.lineBreak indent depth e ++ e.source := ⟨_, rfl⟩
    have hflag : (page.write indent e).breakable = !e.isText := rfl
    rw [hflag] at hp
    rw [hstep, ht, hpage]
    rcases lineBreak_eq indent page depth e with he | ⟨hbreak, hbefore, hevent⟩
    · refine ⟨e :: fs, g, hp.cons e, fun hi => by rw [hnone hi], ?_⟩
      rw [he, sources_cons]
      simp
    · rw [hevent] at hp
      rw [hbefore]
      refine ⟨.text (page.lineBreak indent depth e) :: e :: fs, g, hp.line e hevent hbreak,
        fun hi => ?_, ?_⟩
      · subst hi
        exact absurd rfl hbreak.1
      · have hline : (Event.text (page.lineBreak indent depth e)).source =
            page.lineBreak indent depth e := escapeText_lineBreak hbreak
        rw [sources_cons, sources_cons, hline]
        simp

/-- What is printed of a list of nodes. -/
theorem toList_printNodes (indent : Option Nat) (nodes : List Node) :
    ∃ fs g, Parted false (Node.writtenAll [] nodes) fs g ∧
      (indent = none → fs = Node.writtenAll [] nodes) ∧
      (printNodes indent nodes).toList = sources fs := by
  obtain ⟨fs, g, hp, hnone, ht⟩ := toList_writeAll indent (Node.writtenAll [] nodes) .blank
  refine ⟨fs, g, hp, hnone, ?_⟩
  unfold printNodes
  rw [Node.events_eq, ht]
  simp [Page.blank]

/-- What is printed of a document. -/
theorem toList_print (d : Document) (layout : Layout) :
    ∃ fs, Broken (d.events layout.declaration) fs ∧
      (layout.indent = none → fs = d.events layout.declaration) ∧
      (d.print layout).toList = sources fs := by
  obtain ⟨fs, g, hp, hnone, ht⟩ :=
    toList_writeAll layout.indent (d.events layout.declaration) .blank
  refine ⟨fs, hp.broken, hnone, ?_⟩
  unfold Document.print
  rw [ht]
  simp [Page.blank]

/-! ## Tags -/

theorem source_start (bindings : Bindings) (tag : Tag) :
    (Event.start tag.name.qualified
      ((writtenAttributes bindings tag).map fun a => (a.name.qualified, a.value))).source.toList =
      (Token.start (writtenTag bindings tag)).source := by
  show ("<" ++ tag.name.qualified ++ Event.attributesSource _ ++ ">").toList =
    '<' :: writtenTag bindings tag ++ ['>']
  simp [toList_attributesSource, writtenTag]

theorem source_empty (bindings : Bindings) (tag : Tag) :
    (Event.empty tag.name.qualified
      ((writtenAttributes bindings tag).map fun a => (a.name.qualified, a.value))).source.toList =
      (Token.empty (writtenTag bindings tag)).source := by
  show ("<" ++ tag.name.qualified ++ Event.attributesSource _ ++ "/>").toList =
    '<' :: writtenTag bindings tag ++ ['/', '>']
  simp [toList_attributesSource, writtenTag]

theorem source_finish (name : String) :
    (Event.finish name).source.toList = (Token.finish name.toList).source := by
  show ("</" ++ name ++ ">").toList = '<' :: '/' :: name.toList ++ ['>']
  simp

end XmlTemplate.Markup
