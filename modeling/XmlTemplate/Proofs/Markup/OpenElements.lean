import XmlTemplate.Proofs.Markup.Reading
import XmlTemplate.Proofs.Markup.TagText

/-!
# Open elements

The lexer keeps the names of the tags that are open, and the builder keeps the elements. The two
always agree, so the lexer refuses every end tag that the builder would refuse.

* `Passes text uri b l`: on its way through `text` the reader has the builder `b` and `l` is left.
  `parse_of_passes`: the rest of the text is read from there.
* `Ends`, `ends_of_parse`: the reader ends where it has come to, with an error or with a document.
* `names_of_passes`: the names that the lexer keeps are those of the open elements.
* `ReadError.isNesting`: an error of the builder about an end tag. `eq_finish_of_feed`: only an end
  tag can lead to one.
* `nesting_checked_by_lexer`: none of them is ever reported.
-/

namespace XmlTemplate.Markup

open Builder

/-! ## The way through a text -/

/-- Reading `text`, the reader comes to the builder `b` with `l` left to be read. -/
inductive Passes (text : String) (uri : Option Uri) : Builder → Lexer → Prop where
  | start : Passes text uri .start (.ofText text.toList)
  | next {b b' : Builder} {l l' : Lexer} {t : Token} : Passes text uri b l →
    l.next = .ok (some (t, l')) → b.feed ⟨lineStarts text.toList, uri, l.offset⟩ t = .ok b' →
    Passes text uri b' l'

/-- The rest of a text is read from any such place. -/
theorem parse_of_passes {text : String} {uri : Option Uri} {b : Builder} {l : Lexer}
    (h : Passes text uri b l) :
    Document.parse text uri = b.run (lineStarts text.toList) uri l := by
  induction h with
  | start => rfl
  | next _ hnext hfeed ih =>
    rw [ih, run_of_next hnext]
    simp only [hfeed]

/-- How reading ends: the lexer refuses what is left, the builder refuses a token, or no text is
left. -/
inductive Ends (starts : List Nat) (uri : Option Uri) (b : Builder) (l : Lexer) :
    Except ReadError Document → Prop where
  | lexer {e : ReadError} : l.next = .error e → Ends starts uri b l (.error e)
  | builder {e : ReadError} {t : Token} {l' : Lexer} : l.next = .ok (some (t, l')) →
    b.feed ⟨starts, uri, l.offset⟩ t = .error e → Ends starts uri b l (.error e)
  | finish {r : Except ReadError Document} : l.next = .ok none → b.finish uri = r →
    Ends starts uri b l r

/-- Whatever comes of a text comes of a place that the reader passes. -/
theorem ends_of_parse (text : String) (uri : Option Uri) :
    ∃ b l, Passes text uri b l ∧
      Ends (lineStarts text.toList) uri b l (Document.parse text uri) := by
  have run (b : Builder) (l : Lexer) (h : Passes text uri b l) : ∃ b' l', Passes text uri b' l' ∧
      Ends (lineStarts text.toList) uri b' l' (b.run (lineStarts text.toList) uri l) := by
    fun_induction Builder.run (lineStarts text.toList) uri b l with
    | case1 b l e hnext => exact ⟨b, l, h, .lexer hnext⟩
    | case2 b l hnext => exact ⟨b, l, h, .finish hnext rfl⟩
    | case3 b l t l' hnext e hfeed => exact ⟨b, l, h, .builder hnext hfeed⟩
    | case4 b l t l' hnext b' hfeed ih => exact ih (h.next hnext hfeed)
  exact run .start _ .start

/-! ## The same elements are open -/

/-- The lexer keeps the names of the elements that are open in the builder. -/
theorem names_of_passes {text : String} {uri : Option Uri} {b : Builder} {l : Lexer}
    (h : Passes text uri b l) : l.names = b.names := by
  induction h with
  | start =>
    unfold Lexer.ofText
    split <;> rfl
  | @next b b' l l' t _ hnext hfeed ih =>
    obtain ⟨-, -, -, hclose, -⟩ := scan_of_next hnext
    -- a token opens and closes the same names on both sides
    have hfed := closeTags_of_fed (feed_eq_ok_iff.mp hfeed)
    rw [← ih, hclose] at hfed
    exact Except.ok.inj hfed

/-- An end tag that the builder refuses does not close what the lexer has open. -/
theorem closeTags_of_close {b : Builder} {offset : Nat} {inside : List Char} {e : ReadError}
    (h : b.close offset (String.ofList (endName inside)) = .error e) :
    closeTags b.names (.finish inside) =
      .error (if b.opened = [] then .unmatchedEndTag else .mismatchedEndTag) := by
  obtain ⟨opened, top⟩ := b
  cases opened with
  | nil => rfl
  | cons element rest =>
    have hne : endName inside ≠ element.tag.name.qualified.toList := by
      intro heq
      simp only [close, heq, String.ofList_toList, if_true] at h
      cases h
    simp only [names, List.map_cons, closeTags, hne, reduceCtorEq, if_false]

theorem next_of_closeTags {l : Lexer} {rest inside : List Char} {fault : Fault}
    (hs : Token.scan l.rest = .ok (.finish inside, rest))
    (hc : closeTags l.names (.finish inside) = .error fault) :
    l.next = .error (.malformed l.offset fault) := by
  have hne : l.rest.isEmpty = false := by
    cases hl : l.rest with
    | nil =>
      rw [hl] at hs
      cases hs
    | cons => rfl
  unfold Lexer.next
  simp only [hne, Bool.false_eq_true, if_false, hs, Lexer.checkDoctype, hc]

/-! ## Errors -/

/-- Whether an error is the one of a builder that an end tag does not close its innermost
element. -/
def ReadError.isNesting : ReadError → Bool
  | .mismatchedEnd .. | .unexpectedEnd .. => true
  | _ => false

theorem malformed_of_next {l : Lexer} {e : ReadError} (h : l.next = .error e) :
    ∃ position fault, e = .malformed position fault := by
  unfold Lexer.next at h
  split at h
  · cases h
  · split at h
    · cases h
      exact ⟨_, _, rfl⟩
    · split at h
      · rename_i hdoctype
        unfold Lexer.checkDoctype at hdoctype
        split at hdoctype
        · split at hdoctype <;> cases hdoctype
          cases h
          exact ⟨_, _, rfl⟩
        · cases hdoctype
      · cases h
        exact ⟨_, _, rfl⟩
      · cases h

theorem not_isNesting_of_readAttributes {scope : Scope} {offset : Nat} {raw : List RawAttribute}
    {e : ReadError} (h : readAttributes scope offset raw = .error e) : e.isNesting = false := by
  induction raw with
  | nil => cases h
  | cons a rest ih =>
    unfold readAttributes at h
    split at h
    · cases h
      rfl
    · split at h
      · cases h
        rfl
      · cases hr : readAttributes scope offset rest with
        | error e' =>
          rw [hr] at h
          cases h
          exact ih hr
        | ok others =>
          rw [hr] at h
          cases h

theorem not_isNesting_of_readTag {scope : Scope} {place : Place} {inside : List Char}
    {e : ReadError} (h : readTag scope place inside = .error e) : e.isNesting = false := by
  unfold readTag at h
  cases hs : scope.declare (rawAttributes none (afterName inside)).1 with
  | error fault =>
    simp only [hs, bind, Except.bind] at h
    cases h
    rfl
  | ok within =>
    cases hn : within.ofElement (tagName inside) with
    | error p =>
      simp only [hs, hn, bind, Except.bind] at h
      cases h
      rfl
    | ok name =>
      cases ha : readAttributes within place.offset
          (rawAttributes (some []) (afterName inside)).1 with
      | error e' =>
        simp only [hs, hn, ha, bind, Except.bind] at h
        cases h
        exact not_isNesting_of_readAttributes ha
      | ok attributes =>
        simp only [hs, hn, ha, bind, Except.bind] at h
        split at h <;> cases h
        rfl

theorem not_isNesting_of_pushReference {b : Builder} {offset : Nat} {name : List Char}
    {e : ReadError} (h : b.pushReference offset name = .error e) : e.isNesting = false := by
  unfold pushReference at h
  split at h <;> split at h <;> cases h
  rfl

theorem not_isNesting_of_finish {b : Builder} {uri : Option Uri} {e : ReadError}
    (h : b.finish uri = .error e) : e.isNesting = false := by
  unfold finish at h
  split at h
  · cases h
    rfl
  · dsimp only at h
    split at h <;> cases h
    rfl

/-- Only an end tag leads to such an error. -/
theorem eq_finish_of_feed {b : Builder} {place : Place} {t : Token} {e : ReadError}
    (h : b.feed place t = .error e) (he : e.isNesting = true) : ∃ inside, t = .finish inside := by
  have hother (h' : e.isNesting = false) : ∃ inside, t = .finish inside := by
    rw [he] at h'
    cases h'
  cases t with
  | text | comment | cdata | doctype => cases h
  | reference name => exact hother (not_isNesting_of_pushReference h)
  | start inside | empty inside =>
    simp only [feed] at h
    cases hr : readTag b.scope place inside <;> rw [hr] at h <;> cases h
    exact hother (not_isNesting_of_readTag hr)
  | finish inside => exact ⟨inside, rfl⟩
  | instruction chars =>
    simp only [feed] at h
    split at h
    · split at h <;> cases h
      exact hother rfl
    · cases h

/-! ## Texts -/

/-- At no place that the reader passes does the builder refuse a token for its nesting. -/
theorem not_isNesting_of_ends {text : String} {uri : Option Uri} {b : Builder} {l : Lexer}
    (h : Passes text uri b l) {e : ReadError}
    (hends : Ends (lineStarts text.toList) uri b l (.error e)) : e.isNesting = false := by
  cases hends with
  | lexer hnext =>
    obtain ⟨position, fault, rfl⟩ := malformed_of_next hnext
    rfl
  | builder hnext hfeed =>
    -- the lexer has let the end tag pass, so it closes the innermost element
    refine Bool.eq_false_iff.mpr fun he => ?_
    obtain ⟨inside, rfl⟩ := eq_finish_of_feed hfeed he
    obtain ⟨-, -, -, hclose, -⟩ := scan_of_next hnext
    rw [names_of_passes h, closeTags_of_close hfeed] at hclose
    cases hclose
  | finish _ hfinish => exact not_isNesting_of_finish hfinish

/-- **The lexer checks the nesting.** Wherever the reader is in a text, the names that the lexer
keeps are those of the elements that are open, and an end tag that the builder would refuse is
refused by the lexer. So no text is refused by the builder for an end tag. -/
theorem nesting_checked_by_lexer (text : String) (uri : Option Uri) :
    (∀ b l, Passes text uri b l →
      l.names = b.opened.map (·.tag.name.qualified.toList) ∧
      ∀ inside rest e, Token.scan l.rest = .ok (.finish inside, rest) →
        b.close l.offset (String.ofList (endName inside)) = .error e →
        l.next = .error (.malformed l.offset
          (if b.opened = [] then .unmatchedEndTag else .mismatchedEndTag))) ∧
    (∀ expected found position,
      Document.parse text uri ≠ .error (.mismatchedEnd expected found position)) ∧
    ∀ found position, Document.parse text uri ≠ .error (.unexpectedEnd found position) := by
  obtain ⟨b, l, hpasses, hends⟩ := ends_of_parse text uri
  have hnesting {e : ReadError} (he : Document.parse text uri = .error e) :
      e.isNesting = false := by
    rw [he] at hends
    exact not_isNesting_of_ends hpasses hends
  refine ⟨fun b l h => ⟨names_of_passes h, fun inside rest e hs hc => ?_⟩,
    fun expected found position he => ?_, fun found position he => ?_⟩
  · refine next_of_closeTags hs ?_
    rw [names_of_passes h]
    exact closeTags_of_close hc
  · cases hnesting he
  · cases hnesting he

/-- An element with a prefix, closed by its local name. -/
def crossed : String := "<xml:a></a>"

/-- What the builder has behind the start tag. -/
def behindStart : Builder :=
  ⟨[⟨⟨⟨some "xml", "a", some xmlNamespace⟩, [], some ⟨1, 1⟩, none⟩, .initial, []⟩], []⟩

/-- What is left behind the start tag. -/
def leftToRead : Lexer := ⟨7, ["xml:a".toList], "</a>".toList⟩

theorem passes_crossed : Passes crossed none behindStart leftToRead := by
  have hnext : (Lexer.ofText crossed.toList).next =
      .ok (some (.start "xml:a".toList, leftToRead)) := rfl
  have hafter : afterName "xml:a".toList = [] := by decide
  refine .next .start hnext (feed_eq_ok_iff.mpr (.start (readTag_eq_ok_iff.mpr ?_)))
  rw [hafter, rawAttributes_nil, rawAttributes_nil]
  exact ⟨rfl, rfl, rfl, rfl, rfl, rfl⟩

theorem nesting_checked_by_lexer_crossed :
    Passes crossed none behindStart leftToRead ∧
      leftToRead.names = behindStart.opened.map (·.tag.name.qualified.toList) ∧
      behindStart.close 7 "a" = .error (.mismatchedEnd "xml:a" "a" 7) ∧
      leftToRead.next = .error (.malformed 7 .mismatchedEndTag) ∧
      Document.parse crossed none = .error (.malformed 7 .mismatchedEndTag) ∧
      Document.parse crossed none ≠ .error (.mismatchedEnd "xml:a" "a" 7) := by
  obtain ⟨hpasses, hmismatched, -⟩ := nesting_checked_by_lexer crossed none
  obtain ⟨hnames, hrefuses⟩ := hpasses _ _ passes_crossed
  have hclose : behindStart.close 7 "a" = .error (.mismatchedEnd "xml:a" "a" 7) := rfl
  have hscan : Token.scan leftToRead.rest = .ok (.finish ['a'], []) := rfl
  refine ⟨passes_crossed, hnames, hclose, hrefuses _ _ _ hscan hclose, ?_, hmismatched _ _ _⟩
  rw [parse_of_passes passes_crossed]
  exact run_of_next_error (hrefuses _ _ _ hscan hclose) ..

end XmlTemplate.Markup
