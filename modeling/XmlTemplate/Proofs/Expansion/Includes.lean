import XmlTemplate.Proofs.Expansion.Reachable

/-!
# Open documents

Wherever a session comes through, no document is open twice, and not more documents are open than
expansions are nested. So documents that include each other are never expanded inside themselves,
and where documents come from a fixed store there are never more of them open than it holds.

* `Disciplined`: the documents that were opened since the start, in a state.
* `disciplined_invariant`: opening a document and going deeper preserve it.
* `includes_disciplined`: what follows for all states that are come through.
-/

namespace XmlTemplate.Expansion

open Markup

/-! ## The discipline -/

/-- The documents that are open are those in `opened` and the one that was open from the start.
All of them are different, those that were opened can be loaded, and each of them took a level. -/
structure Disciplined (o : Options) (base : Option Uri) (opened : List Uri) (s : State) : Prop where
  includes : s.environment.includes = opened ++ base.toList
  distinct : (s.environment.includes.map Uri.toText).Nodup
  loaded : ∀ uri ∈ opened, ∃ d, o.loader uri = .ok d
  nested : opened.length ≤ s.depth
  limited : s.depth ≤ o.maxDepth

theorem isOpen_iff {env : Environment} {uri : Uri} :
    env.isOpen uri = true ↔ uri.toText ∈ env.includes.map Uri.toText := by
  simp [Environment.isOpen]

variable {o : Options} {base : Option Uri}

theorem disciplined_initial (o : Options) (base : Option Uri) :
    Disciplined o base [] (State.initial o base) := by
  rw [State.initial_eq]
  exact ⟨rfl, (by cases base <;> simp), (fun _ h => by cases h), le_rfl, Nat.zero_le _⟩

theorem disciplined_invariant (o : Options) (base : Option Uri) :
    Invariant o fun s => ∃ opened, Disciplined o base opened s where
  kept := by
    rintro s t hkept ⟨opened, h⟩
    refine ⟨opened, hkept.includes.trans h.includes, ?_, h.loaded, ?_, ?_⟩
    · rw [hkept.includes]
      exact h.distinct
    · rw [hkept.depth]
      exact h.nested
    · rw [hkept.depth]
      exact h.limited
  descend := by
    rintro s ⟨opened, h⟩ hs
    exact ⟨opened, h.includes, h.distinct, h.loaded, h.nested.trans (Nat.le_succ _), hs⟩
  including := by
    rintro s href uri d ⟨opened, h⟩ hs hd
    obtain ⟨-, hopen, hload⟩ := documentFor_eq_ok.mp hd
    refine ⟨uri :: opened, congrArg (uri :: ·) h.includes, ?_, ?_, Nat.succ_le_succ h.nested, hs⟩
    · refine List.nodup_cons.mpr ⟨fun hmem => ?_, h.distinct⟩
      rw [isOpen_iff.mpr hmem] at hopen
      cases hopen
    · exact List.forall_mem_cons.mpr ⟨⟨d, hload⟩, h.loaded⟩

theorem Session.Reaches.disciplined {α : Type} {p : Session Operation α} {s : State}
    (h : p.Reaches o (State.initial o base) s) : ∃ opened, Disciplined o base opened s :=
  h.invariant (disciplined_invariant o base) ⟨[], disciplined_initial o base⟩

/-! ## What follows -/

/-- A document that is open is not opened again, and not even loaded. -/
theorem run_withInclude_of_open {s : State} {href : String} {uri : Uri}
    (hresolve : Uri.resolve s.environment.currentDocument? href = .ok uri)
    (hopen : uri.toText ∈ s.environment.includes.map Uri.toText) {α : Type}
    (body : Document → Expand α) :
    (withInclude o href body).run s = (.error (.ofCause (.includeCycle uri)), s) := by
  rw [run_withInclude, documentFor, hresolve]
  dsimp only
  rw [if_pos (isOpen_iff.mpr hopen)]

/-- Documents that are held in memory are loaded from the texts that they are held in. -/
theorem mem_of_ofTexts {texts : List (String × String)} {uri : Uri} {d : Document}
    (h : Loader.ofTexts texts uri = .ok d) : uri.toText ∈ texts.map Prod.fst := by
  unfold Loader.ofTexts at h
  split at h
  · rename_i text hl
    obtain ⟨before, after, rfl, -⟩ := List.lookup_eq_some_iff.mp hl
    simp
  · cases h

/-- Of the documents that are held in memory no more are open than there are. -/
theorem Disciplined.length_le {opened : List Uri} {s : State} (h : Disciplined o base opened s)
    {texts : List (String × String)} (ho : o.loader = Loader.ofTexts texts) :
    opened.length ≤ (texts.map Prod.fst).dedup.length := by
  have hdistinct : (opened.map Uri.toText).Nodup := by
    have hnodup := h.distinct
    rw [h.includes, List.map_append] at hnodup
    exact hnodup.of_append_left
  have hstored : opened.map Uri.toText ⊆ (texts.map Prod.fst).dedup := by
    intro text htext
    obtain ⟨uri, huri, rfl⟩ := List.mem_map.mp htext
    obtain ⟨d, hd⟩ := h.loaded uri huri
    exact List.mem_dedup.mpr (mem_of_ofTexts (ho ▸ hd))
  simpa using (List.subperm_of_subset hdistinct hstored).length_le

/-- **No document is open twice**, wherever a session comes through. There are not more documents
open than expansions nested, apart from the one that is open from the start. An inclusion of a
document that is open fails, wherever documents are loaded from, and leaves the state as it is.
Where documents are held in memory, no more are opened than there are, whatever the limit of
nesting is. -/
theorem includes_disciplined {α : Type} {p : Session Operation α} {s : State}
    (h : p.Reaches o (State.initial o base) s) :
    (s.environment.includes.map Uri.toText).Nodup ∧
      s.environment.includes.length ≤ s.depth + base.toList.length ∧
      (∀ href uri, Uri.resolve s.environment.currentDocument? href = .ok uri →
        uri.toText ∈ s.environment.includes.map Uri.toText →
          ∀ (loader : Loader) (β : Type) (body : Document → Expand β),
            (withInclude { o with loader := loader } href body).run s =
              (.error (.ofCause (.includeCycle uri)), s)) ∧
      ∀ texts, o.loader = Loader.ofTexts texts →
        s.environment.includes.length ≤ (texts.map Prod.fst).dedup.length + base.toList.length := by
  obtain ⟨opened, hs⟩ := h.disciplined
  have hlength : s.environment.includes.length = opened.length + base.toList.length := by
    rw [hs.includes, List.length_append]
  refine ⟨hs.distinct, ?_, fun href uri hresolve hopen loader β body =>
    run_withInclude_of_open hresolve hopen body, fun texts ho => ?_⟩
  · rw [hlength]
    exact Nat.add_le_add_right hs.nested _
  · rw [hlength]
    exact Nat.add_le_add_right (hs.length_le ho) _

/-- The URI of a document that is held in memory. -/
def storedUri (name : String) : Uri := ⟨"u", "", "", none, none, .verbatim name, none, none⟩

/-- Two documents that include each other. -/
def includingEachOther : Options :=
  { Options.standard (.ofTexts [("u:a", "<include xmlns='p' href='u:b'/>"),
      ("u:b", "<include xmlns='p' href='u:a'/>")]) with
    space := "p" }

/-- The only element of each of them. -/
def includingOther (name other : String) : Tag :=
  ⟨⟨none, "include", some "p"⟩,
    [⟨⟨none, "xmlns", some declarationNamespace⟩, "p"⟩, ⟨.plain "href", other⟩],
    some ⟨1, 1⟩, some (storedUri name)⟩

/-- The state in which the second of them is expanded, inside the first. -/
def insideEachOther : State :=
  ((State.initial includingEachOther none).including (storedUri "a")).including (storedUri "b")

theorem includingEachOther_loads :
    includingEachOther.loader (storedUri "a") =
        .ok ⟨some (storedUri "a"), [.element (includingOther "a" "u:b") []]⟩ ∧
      includingEachOther.loader (storedUri "b") =
        .ok ⟨some (storedUri "b"), [.element (includingOther "b" "u:a") []]⟩ := by
  constructor <;> cbv

/-- An inclusion of the first document comes there, and no further. -/
theorem includes_disciplined_eachOther :
    (Session.operation (.expandNode .collapse (.element (includingOther "b" "u:a") []) [])).Reaches
        includingEachOther (State.initial includingEachOther none) insideEachOther ∧
      insideEachOther.environment.includes.map Uri.toText = ["u:b", "u:a"] ∧
      insideEachOther.depth = 2 ∧
      (withInclude includingEachOther "u:a" fun d => pure d.children).run insideEachOther =
        (.error (.ofCause (.includeCycle (storedUri "a"))), insideEachOther) := by
  let s := State.initial includingEachOther none
  obtain ⟨ha, hb⟩ := includingEachOther_loads
  have hfirst : (Operation.expandNode .collapse (.element (includingOther "b" "u:a") []) []).Calls
      includingEachOther s ⟨.siblings .collapse [.element (includingOther "a" "u:b") []],
        s.including (storedUri "a")⟩ :=
    Operation.calls_included rfl rfl rfl (by decide)
      (documentFor_eq_ok.mpr ⟨by cbv, by cbv, ha⟩) .collapse [] []
  have hsecond : (Operation.expandNode .collapse (.element (includingOther "a" "u:b") []) []).Calls
      includingEachOther (s.including (storedUri "a"))
      ⟨.siblings .collapse [.element (includingOther "b" "u:a") []], insideEachOther⟩ :=
    Operation.calls_included rfl rfl rfl (by decide)
      (documentFor_eq_ok.mpr ⟨by cbv, by cbv, hb⟩) .collapse [] []
  have hreaches : (Session.operation (.expandNode .collapse
      (.element (includingOther "b" "u:a") []) [])).Reaches includingEachOther s insideEachOther :=
    .inside hfirst (.inside (Operation.calls_first _ _ _ _ _) (.inside hsecond (.start _ _)))
  obtain ⟨-, -, hcycle, -⟩ := includes_disciplined hreaches
  refine ⟨hreaches, by cbv, rfl, ?_⟩
  exact hcycle "u:a" (storedUri "a") (by cbv) (List.mem_cons_of_mem _ List.mem_cons_self)
    includingEachOther.loader _ _

end XmlTemplate.Expansion
