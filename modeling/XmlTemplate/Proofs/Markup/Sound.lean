import XmlTemplate.Proofs.Markup.Scanned

/-!
# Trees that were read

What every tree has in common that was read from a text, as long as the names in it are valid: its
leaves do not contain the marks that end them, and its names are what they mean.

* `Node.All`: what holds of every tag and every leaf of a tree.
* `Node.tags`: the tags of a tree in their order.
* `Node.Named`: a tree whose names are valid. `Node.Sound`: a tree that could have been read.
* `Means`: what the key of an attribute may mean.
* `readTag_proper`: what the reader ensures of a tag.
* `sound_of_parse`: a document that was read is sound if its names are valid.
-/

namespace XmlTemplate.Markup

/-! ## Trees -/

namespace Node

mutual

/-- All tags of a tree satisfy `P` and all its leaves `Q`. -/
def All (P : Tag → Prop) (Q : Node → Prop) : Node → Prop
  | .element tag children => P tag ∧ AllOf P Q children
  | n => Q n

/-- The same for siblings. -/
def AllOf (P : Tag → Prop) (Q : Node → Prop) : List Node → Prop
  | [] => True
  | node :: rest => node.All P Q ∧ AllOf P Q rest

end

mutual

/-- Whether all tags and leaves of a tree satisfy what can be decided of them. -/
def decideAll {P : Tag → Prop} {Q : Node → Prop} [DecidablePred P] [DecidablePred Q] :
    (n : Node) → Decidable (n.All P Q)
  | .element tag children =>
    have := decideAllOf (P := P) (Q := Q) children
    inferInstanceAs (Decidable (P tag ∧ AllOf P Q children))
  | .text value => inferInstanceAs (Decidable (Q (.text value)))
  | .cdata value => inferInstanceAs (Decidable (Q (.cdata value)))
  | .comment value => inferInstanceAs (Decidable (Q (.comment value)))
  | .instruction target data => inferInstanceAs (Decidable (Q (.instruction target data)))
  | .doctype value => inferInstanceAs (Decidable (Q (.doctype value)))
  | .reference name => inferInstanceAs (Decidable (Q (.reference name)))
  | .declaration value => inferInstanceAs (Decidable (Q (.declaration value)))

/-- The same for siblings. -/
def decideAllOf {P : Tag → Prop} {Q : Node → Prop} [DecidablePred P] [DecidablePred Q] :
    (nodes : List Node) → Decidable (AllOf P Q nodes)
  | [] => isTrue trivial
  | node :: rest =>
    have := decideAll (P := P) (Q := Q) node
    have := decideAllOf (P := P) (Q := Q) rest
    inferInstanceAs (Decidable (node.All P Q ∧ AllOf P Q rest))

end

instance {P : Tag → Prop} {Q : Node → Prop} [DecidablePred P] [DecidablePred Q] (n : Node) :
    Decidable (n.All P Q) := decideAll n

theorem allOf_iff {P : Tag → Prop} {Q : Node → Prop} {nodes : List Node} :
    AllOf P Q nodes ↔ ∀ n ∈ nodes, n.All P Q := by
  induction nodes with
  | nil => simp [AllOf]
  | cons n rest ih => simp [AllOf, ih]

mutual

/-- The tags of an element and of the elements in it, in the order of the document. -/
def tags : Node → List Tag
  | .element tag children => tag :: tagsAll children
  | _ => []

/-- The tags of the elements in a list of siblings, at any depth. -/
def tagsAll : List Node → List Tag
  | [] => []
  | node :: rest => node.tags ++ tagsAll rest

end

theorem mem_tagsAll {tag : Tag} {nodes : List Node} :
    tag ∈ tagsAll nodes ↔ ∃ n ∈ nodes, tag ∈ n.tags := by
  induction nodes with
  | nil => simp [tagsAll]
  | cons node rest ih => simp [tagsAll, ih]

end Node

/-- The names in a tag are valid: each is a name, or two of them joined by a colon. -/
structure Tag.Named (tag : Tag) : Prop where
  name : isQName tag.name.qualified.toList = true
  attributes : ∀ a ∈ tag.attributes, isQName a.name.qualified.toList = true

instance : DecidablePred Tag.Named := fun tag =>
  decidable_of_iff (isQName tag.name.qualified.toList = true ∧
      ∀ a ∈ tag.attributes, isQName a.name.qualified.toList = true)
    ⟨fun h => ⟨h.1, h.2⟩, fun h => ⟨h.1, h.2⟩⟩

namespace Node

/-- A tree in which all names are valid. -/
def Named (n : Node) : Prop := n.All Tag.Named fun _ => True

instance : DecidablePred Named := fun n =>
  inferInstanceAs (Decidable (n.All Tag.Named fun _ => True))

/-- A tree that could have been read. -/
def Sound (n : Node) : Prop := n.All Tag.Proper LeafText

end Node

/-! ## Scopes -/

/-- The namespace of declarations is bound to `xmlns` only, or it is the default one. -/
def Scope.Sound (scope : Scope) : Prop :=
  ∀ b ∈ scope, b.2 = declarationNamespace.toList → b.1 = [] ∨ b.1 = "xmlns".toList

namespace Scope

theorem Sound.initial : Scope.initial.Sound := by
  intro b hb he
  rcases List.mem_cons.mp hb with rfl | hb
  · exact .inr rfl
  · have hx : b.2 = xmlNamespace.toList := by rw [List.mem_singleton.mp hb]
    exact absurd (hx.symm.trans he) (by decide)

theorem Sound.cons {scope : Scope} (h : scope.Sound) {name uri : List Char}
    (hb : uri = declarationNamespace.toList → name = [] ∨ name = "xmlns".toList) :
    Scope.Sound ((name, uri) :: scope) := by
  intro b hm
  rcases List.mem_cons.mp hm with rfl | hm
  · exact hb
  · exact h b hm

theorem Sound.bind {scope scope' : Scope} (h : scope.Sound) {key name uri : List Char}
    (hk : key = "xmlns".toList → name = []) (hb : scope.bind key name uri = .ok scope') :
    scope'.Sound := by
  unfold Scope.bind at hb
  split at hb
  · rename_i hkey
    cases hb
    exact h.cons fun _ => .inl (hk (beq_iff_eq.mp hkey))
  · split at hb
    · split at hb <;> cases hb
      exact h
    · split at hb
      · cases hb
      · split at hb
        · cases hb
        · split at hb
          · cases hb
          · rename_i hne
            cases hb
            exact h.cons fun he => absurd (beq_iff_eq.mpr he) hne

theorem Sound.declare {scope scope' : Scope} {raw : List RawAttribute} (h : scope.Sound)
    (hd : scope.declare raw = .ok scope') : scope'.Sound := by
  induction raw generalizing scope with
  | nil =>
    cases hd
    exact h
  | cons a rest ih =>
    unfold Scope.declare at hd
    split at hd
    · rename_i name hname
      have hk : a.key = "xmlns".toList → name = [] := by
        intro hk
        rcases eq_of_declaredPrefix? hname with ⟨-, hn⟩ | he
        · exact hn
        · rw [hk] at he
          cases he
      cases hb : scope.bind a.key name a.value with
      | error fault =>
        rw [hb] at hd
        cases hd
      | ok within =>
        rw [hb] at hd
        exact ih (h.bind hk hb) hd
    · exact ih h hd

/-- What a prefix stands for is not empty. -/
theorem ofList_ne_empty_of_ofPrefix? {scope : Scope} {p uri : List Char}
    (hp : scope.ofPrefix? p = some uri) : String.ofList uri ≠ "" := by
  obtain ⟨-, -, hne⟩ := ofPrefix?_eq_some_iff.mp hp
  exact fun he => hne (by simpa using congrArg String.toList he)

/-- The namespace of declarations is the one of `xmlns` only. -/
theorem Sound.ofPrefix? {scope : Scope} (h : scope.Sound) {p uri : List Char}
    (hp : scope.ofPrefix? p = some uri) (he : uri = declarationNamespace.toList) :
    p = "xmlns".toList := by
  obtain ⟨hne, hl, -⟩ := ofPrefix?_eq_some_iff.mp hp
  have hm : (p, uri) ∈ scope := by
    obtain ⟨before, after, hs, -⟩ := List.lookup_eq_some_iff.mp hl
    rw [hs]
    simp
  exact (h _ hm he).resolve_left hne

end Scope

/-! ## Tags -/

section Tags

variable {scope : Scope}

theorem bound_of_ofElement {s : List Char} {name : QName} (h : scope.ofElement s = .ok name) :
    name.Bound := by
  obtain ⟨l, -, rfl⟩ | ⟨p, l, uri, -, hu, rfl⟩ := ofElement_cases h
  · exact fun p hp => by cases hp
  · exact fun p hp => ⟨_, rfl, Scope.ofList_ne_empty_of_ofPrefix? hu⟩

theorem proper_of_ofElement {s : List Char} {name : QName} (h : scope.ofElement s = .ok name)
    (hn : isQName s = true) : name.Proper := by
  obtain ⟨l, hcut, rfl⟩ | ⟨p, l, uri, hcut, -, rfl⟩ := ofElement_cases h
  · exact proper_of_cutName _ hcut hn
  · exact proper_of_cutName (p := some p) _ hcut hn

/-- What the key of an attribute may mean. -/
inductive Means (scope : Scope) : List Char → QName → Prop where
  | default : Means scope "xmlns".toList ⟨none, "xmlns", some declarationNamespace⟩
  | declaration (n : List Char) : Means scope ("xmlns".toList ++ ':' :: n)
      ⟨some "xmlns", String.ofList n, some declarationNamespace⟩
  | plain {key l : List Char} : Scope.declaredPrefix? key = none →
    Scope.cutName key = (none, l) → Means scope key ⟨none, String.ofList l, none⟩
  | prefixed {key p l uri : List Char} : Scope.declaredPrefix? key = none →
    Scope.cutName key = (some p, l) → scope.ofPrefix? p = some uri →
    Means scope key ⟨some (String.ofList p), String.ofList l, some (String.ofList uri)⟩

theorem Means.of_ofAttribute {key : List Char} {name : QName}
    (h : scope.ofAttribute key = .ok name) : Means scope key name := by
  unfold Scope.ofAttribute at h
  split at h
  · rename_i n hd
    split at h
    · rename_i hk
      cases h
      rw [beq_iff_eq.mp hk]
      exact .default
    · rename_i hk
      cases h
      rcases eq_of_declaredPrefix? hd with ⟨he, -⟩ | he
      · exact absurd (beq_iff_eq.mpr he) hk
      · rw [he]
        exact .declaration n
  · rename_i hd
    split at h
    · cases h
      exact .plain hd ‹_›
    · split at h <;> cases h
      exact .prefixed hd ‹_› ‹_›

theorem Means.qualified {key : List Char} {name : QName} (h : Means scope key name) :
    name.qualified.toList = key := by
  cases h with
  | default => rfl
  | declaration n =>
    rw [QName.toList_qualified]
    simp
  | plain _ hc => exact qualified_of_cutName none hc
  | @prefixed _ p _ _ _ hc => exact qualified_of_cutName (p := some p) _ hc

/-- An attribute that was read is a declaration, or it cannot be taken for one. -/
theorem Means.proper (hs : scope.Sound) {key : List Char} {a : Attribute}
    (h : Means scope key a.name) (hn : isQName key = true) : a.Proper := by
  have hq := h.qualified
  obtain ⟨name, value⟩ := a
  simp only at h hq
  cases h with
  | default => exact @Attribute.Proper.declaration _ none value rfl fun q hq => by cases hq
  | declaration n =>
    have hlocal := (proper_of_cutName none (cutName_append (by decide) n) hn).localPart
    refine @Attribute.Proper.declaration _ (some (String.ofList n)) value rfl fun q hq => ?_
    cases hq
    exact hlocal
  | @plain _ l hd hc =>
    refine .plain rfl (proper_of_cutName none hc hn) (fun p hp => by cases hp)
      (fun hp => by cases hp) fun _ => ⟨fun he => ?_, rfl⟩
    -- The whole key would be the one of a default declaration.
    have he : String.ofList l = "xmlns" := he
    rw [← hq, he] at hd
    cases hd
  | @prefixed _ p l uri hd hc hu =>
    have hp : p ≠ "xmlns".toList := by
      rintro rfl
      rw [eq_append_of_cutName hc, declaredPrefix?_append] at hd
      cases hd
    refine .plain ?_ (proper_of_cutName (p := some p) _ hc hn)
      (fun q _ => ⟨_, rfl, Scope.ofList_ne_empty_of_ofPrefix? hu⟩) ?_ fun hp => by cases hp
    · refine beq_eq_false_iff_ne.mpr fun he => hp (hs.ofPrefix? hu ?_)
      simpa using congrArg String.toList (Option.some.inj he)
    · exact fun he => hp (by simpa using congrArg String.toList (Option.some.inj he))

theorem ofAttribute_of_readAttributes {offset : Nat} {raw : List RawAttribute}
    {attributes : List Attribute} (h : readAttributes scope offset raw = .ok attributes) :
    ∀ a ∈ attributes, ∃ key, scope.ofAttribute key = .ok a.name := by
  induction raw generalizing attributes with
  | nil =>
    cases h
    exact fun a ha => by cases ha
  | cons first rest ih =>
    obtain ⟨value, name, others, -, hname, hrest, rfl⟩ := readAttributes_cons_eq_ok_iff.mp h
    exact List.forall_mem_cons.mpr ⟨⟨_, hname⟩, ih hrest⟩

/-- A tag that was read is proper if its names are valid. -/
theorem readTag_proper (hs : scope.Sound) {scope' : Scope} {place : Place} {inside : List Char}
    {tag : Tag} (h : readTag scope place inside = .ok (tag, scope')) :
    scope'.Sound ∧ (tag.Named → tag.Proper) := by
  obtain ⟨hd, hn, ha, -⟩ := readTag_eq_ok_iff.mp h
  have hs' : scope'.Sound := hs.declare hd
  refine ⟨hs', fun hnamed => ⟨?_, bound_of_ofElement hn, fun a hm => ?_⟩⟩
  · have hq := hnamed.name
    rw [qualified_of_ofElement hn] at hq
    exact proper_of_ofElement hn hq
  · obtain ⟨key, hk⟩ := ofAttribute_of_readAttributes ha a hm
    have hq := hnamed.attributes a hm
    have hmeans := Means.of_ofAttribute hk
    rw [hmeans.qualified] at hq
    exact hmeans.proper hs' hq

end Tags

/-! ## Documents -/

/-- A node that is sound as long as its names are valid. -/
def Node.SoundIfNamed (n : Node) : Prop := n.Named → n.Sound

/-- An element is open whose tag and content are sound as long as their names are valid. -/
structure OpenElement.SoundIfNamed (e : OpenElement) : Prop where
  tag : e.tag.Named → e.tag.Proper
  scope : e.scope.Sound
  children : ∀ n ∈ e.children, n.SoundIfNamed

namespace Builder

/-- Everything read so far is sound as long as its names are valid. -/
structure SoundIfNamed (b : Builder) : Prop where
  opened : ∀ e ∈ b.opened, e.SoundIfNamed
  top : ∀ n ∈ b.top, n.SoundIfNamed

/-- What holds of all texts holds of what they are joined to. -/
theorem forall_mem_pushText {P : Node → Prop} (ht : ∀ value, P (.text value)) {nodes : List Node}
    (h : ∀ n ∈ nodes, P n) (s : String) : ∀ n ∈ pushNode nodes (.text s), P n := by
  unfold pushNode
  split
  · exact List.forall_mem_cons.mpr ⟨ht _, fun n hn => h n (List.mem_cons_of_mem _ hn)⟩
  · exact List.forall_mem_cons.mpr ⟨ht s, h⟩

namespace SoundIfNamed

variable {b : Builder}

theorem start : Builder.start.SoundIfNamed := ⟨fun _ h => (List.not_mem_nil h).elim,
  fun _ h => (List.not_mem_nil h).elim⟩

theorem scope (h : b.SoundIfNamed) : b.scope.Sound := by
  obtain ⟨opened, top⟩ := b
  cases opened with
  | nil => exact .initial
  | cons e rest => exact (h.opened e (List.mem_cons_self ..)).scope

theorem push (h : b.SoundIfNamed) {n : Node} (hn : n.SoundIfNamed) : (b.push n).SoundIfNamed := by
  obtain ⟨opened, top⟩ := b
  cases opened with
  | nil => exact ⟨h.opened, List.forall_mem_cons.mpr ⟨hn, h.top⟩⟩
  | cons e rest =>
    obtain ⟨he, hrest⟩ := List.forall_mem_cons.mp h.opened
    have hchildren := List.forall_mem_cons.mpr ⟨hn, he.children⟩
    exact ⟨List.forall_mem_cons.mpr ⟨⟨he.tag, he.scope, hchildren⟩, hrest⟩, h.top⟩

theorem pushText (h : b.SoundIfNamed) (s : String) : (b.pushText s).SoundIfNamed := by
  have htext (value : String) : (Node.text value).SoundIfNamed := fun _ => trivial
  obtain ⟨opened, top⟩ := b
  cases opened with
  | nil => exact ⟨h.opened, forall_mem_pushText htext h.top s⟩
  | cons e rest =>
    obtain ⟨he, hrest⟩ := List.forall_mem_cons.mp h.opened
    have hchildren := forall_mem_pushText htext he.children s
    exact ⟨List.forall_mem_cons.mpr ⟨⟨he.tag, he.scope, hchildren⟩, hrest⟩, h.top⟩

/-- Closing the innermost element makes a node of it. -/
theorem close {e : OpenElement} {rest : List OpenElement} {top : List Node}
    (h : SoundIfNamed ⟨e :: rest, top⟩) :
    SoundIfNamed (Builder.push ⟨rest, top⟩ (.element e.tag e.children.reverse)) := by
  obtain ⟨he, hrest⟩ := List.forall_mem_cons.mp h.opened
  have hinner : SoundIfNamed ⟨rest, top⟩ := ⟨hrest, h.top⟩
  refine hinner.push fun hnamed => ?_
  obtain ⟨htag, hchildren⟩ := hnamed
  refine ⟨he.tag htag, Node.allOf_iff.mpr fun n hn => ?_⟩
  have hn' := Node.allOf_iff.mp hchildren n hn
  exact he.children n (List.mem_reverse.mp hn) hn'

/-- One more token keeps everything sound. -/
theorem fed (h : b.SoundIfNamed) {b' : Builder} {place : Place} {t : Token} (ht : t.Scanned)
    (hf : b.Fed place t b') : b'.SoundIfNamed := by
  cases hf with
  | text | number | character => exact h.pushText _
  | reference hs hn =>
    refine h.push fun _ => ⟨fun c hc => ?_, ?_, ?_⟩
    · rw [String.toList_ofList] at hc
      exact endsReference_eq_false (ht c hc)
    · rw [String.toList_ofList]
      exact hs
    · rw [String.toList_ofList]
      exact hn
  | start hr =>
    obtain ⟨hscope, hproper⟩ := readTag_proper h.scope hr
    exact ⟨List.forall_mem_cons.mpr
      ⟨⟨hproper, hscope, fun _ hn => (List.not_mem_nil hn).elim⟩, h.opened⟩, h.top⟩
  | empty hr => exact h.push fun hn => ⟨(readTag_proper h.scope hr).2 hn.1, trivial⟩
  | finish ho =>
    obtain ⟨opened, top⟩ := b
    cases ho
    exact h.close
  | comment chars =>
    refine h.push fun _ => ?_
    show Text.contains ['-', '-', '>'] (String.ofList chars).toList = false
    rw [String.toList_ofList]
    exact ht
  | cdata chars =>
    refine h.push fun _ => ?_
    show Text.contains [']', ']', '>'] (String.ofList chars).toList = false
    rw [String.toList_ofList]
    exact ht
  | doctype =>
    refine h.push fun _ => ?_
    show Balanced (String.ofList _).toList
    rw [String.toList_ofList]
    exact balanced_trim ht
  | declaration htext hd =>
    refine ⟨h.opened, List.forall_mem_cons.mpr ⟨fun _ => ?_, h.top⟩⟩
    refine declarationText_of_read hd (Text.not_contains_of_isInfix ?_ ht.2)
    exact (suffix_of_declarationText? htext).isInfix
  | instruction =>
    obtain ⟨target, data, he, htext⟩ := instructionText_of_read ht.1 ht.2
    rw [he]
    exact h.push fun _ => htext

/-- The rest of a document keeps everything sound. -/
theorem run (h : b.SoundIfNamed) {starts : List Nat} {uri : Option Uri} {l : Lexer} {d : Document}
    (hr : b.run starts uri l = .ok d) : ∀ n ∈ d.children, n.SoundIfNamed := by
  obtain ⟨last, hlast, hfinish⟩ := invariant_of_run (fun hnext hfed (hb : SoundIfNamed _) =>
    hb.fed (Token.scanned_of_scan (scan_of_next hnext).2.1) hfed) h hr
  obtain ⟨-, -, rfl⟩ := finish_eq_ok_iff.mp hfinish
  exact fun n hn => hlast.top n (List.mem_reverse.mp hn)

end SoundIfNamed

end Builder

/-- What was read from a text is sound if the names in it are valid. -/
theorem sound_of_parse {text : String} {uri : Option Uri} {d : Document}
    (h : Document.parse text uri = .ok d) (hn : ∀ n ∈ d.children, n.Named) :
    ∀ n ∈ d.children, n.Sound :=
  fun n hm => Builder.SoundIfNamed.start.run h n hm (hn n hm)

end XmlTemplate.Markup
