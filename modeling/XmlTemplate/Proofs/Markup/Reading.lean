import XmlTemplate.Markup.Reader
import XmlTemplate.Proofs.Markup.Escape
import XmlTemplate.Proofs.Markup.Scan

/-!
# Reading one part after another

What a builder comes to is determined by the texts that it reads, one after the other, whatever
follows them.

* `Builder.Fed`, `feed_eq_ok_iff`: what a token does to a builder.
* `closeTags_of_fed`: the lexer and the builder have the same elements open.
* `Builder.After b s P`: from `b`, the text `s` leads to a builder that satisfies `P`.
  `Builder.Refuses b s`: it leads to an error.
* `after_token`, `refuses_token`: the rule for tokens. `after_text`: the rule for escaped text,
  which is read character by character.
-/

namespace XmlTemplate.Markup

/-! ## Tags -/

theorem qualified_of_ofElement {scope : Scope} {s : List Char} {name : QName}
    (h : scope.ofElement s = .ok name) : name.qualified.toList = s := by
  obtain ⟨l, hcut, rfl⟩ | ⟨p, l, uri, hcut, -, rfl⟩ := ofElement_cases h
  · exact qualified_of_cutName _ hcut
  · exact qualified_of_cutName (p := some p) _ hcut

/-- What has to hold for attributes to be read, and what the first of them is read as. -/
theorem readAttributes_cons_eq_ok_iff {scope : Scope} {offset : Nat} {a : RawAttribute}
    {rest : List RawAttribute} {attributes : List Attribute} :
    readAttributes scope offset (a :: rest) = .ok attributes ↔
      ∃ value name others, unescapeValue a.value = .ok value ∧ scope.ofAttribute a.key = .ok name ∧
        readAttributes scope offset rest = .ok others ∧
        attributes = ⟨name, String.ofList value⟩ :: others := by
  rw [readAttributes]
  cases unescapeValue a.value with
  | error fault => simp
  | ok value =>
    cases scope.ofAttribute a.key with
    | error p => simp
    | ok name =>
      cases readAttributes scope offset rest with
      | error e => simp [Except.map]
      | ok others => simp [Except.map, eq_comm]

/-- What has to hold for a tag to be read, and what is read then. -/
theorem readTag_eq_ok_iff {scope scope' : Scope} {place : Place} {inside : List Char} {tag : Tag} :
    readTag scope place inside = .ok (tag, scope') ↔
      scope.declare (rawAttributes none (afterName inside)).1 = .ok scope' ∧
      scope'.ofElement (tagName inside) = .ok tag.name ∧
      readAttributes scope' place.offset (rawAttributes (some []) (afterName inside)).1 =
        .ok tag.attributes ∧
      (rawAttributes (some []) (afterName inside)).2 = none ∧
      tag.position = some (.ofOffset place.starts place.offset) ∧
      tag.document = place.document := by
  unfold readTag
  cases hs : scope.declare (rawAttributes none (afterName inside)).1 with
  | error fault => simp [bind, Except.bind]
  | ok within =>
    cases hn : within.ofElement (tagName inside) with
    | error p =>
      simp only [bind, Except.bind, hn, reduceCtorEq, false_iff, not_and]
      rintro h
      cases h
      simp [hn]
    | ok name =>
      cases ha : readAttributes within place.offset
          (rawAttributes (some []) (afterName inside)).1 with
      | error e =>
        simp only [bind, Except.bind, hn, ha, reduceCtorEq, false_iff, not_and]
        rintro h
        cases h
        simp [ha]
      | ok attributes =>
        cases hf : (rawAttributes (some []) (afterName inside)).2 with
        | some fault => simp [bind, Except.bind, hn, ha, hf]
        | none =>
          simp only [bind, Except.bind, hn, ha, hf, Except.ok.injEq, Prod.mk.injEq]
          constructor
          · rintro ⟨rfl, rfl⟩
            exact ⟨rfl, hn, ha, trivial, rfl, rfl⟩
          · rintro ⟨rfl, hname, hattr, -, hpos, hdoc⟩
            rw [hn] at hname
            rw [ha] at hattr
            cases tag
            cases hname
            cases hattr
            cases hpos
            cases hdoc
            exact ⟨rfl, rfl⟩

/-- The name of a tag that is read is the one that it begins with. -/
theorem qualified_of_readTag {scope scope' : Scope} {place : Place} {inside : List Char} {tag : Tag}
    (h : readTag scope place inside = .ok (tag, scope')) :
    tag.name.qualified.toList = tagName inside :=
  qualified_of_ofElement (readTag_eq_ok_iff.mp h).2.1

namespace Builder

/-- The names of the open elements, as the lexer keeps them. -/
def names (b : Builder) : List (List Char) := b.opened.map (·.tag.name.qualified.toList)

/-- What comes of the text `s` when `offset` octets have been read. -/
def reads (starts : List Nat) (uri : Option Uri) (b : Builder) (offset : Nat) (s : List Char) :
    Except ReadError Document :=
  b.run starts uri ⟨offset, b.names, s⟩

/-- After `s` the builder satisfies `P`, and reading goes on from there. -/
def After (b : Builder) (s : List Char) (P : Builder → Prop) : Prop :=
  ∀ starts uri offset rest, ∃ b' offset', P b' ∧
    b.reads starts uri offset (s ++ rest) = b'.reads starts uri offset' rest

/-- No text that begins with `s` can be read. -/
def Refuses (b : Builder) (s : List Char) : Prop :=
  ∀ starts uri offset rest, ∃ e, b.reads starts uri offset (s ++ rest) = .error e

/-! ## Sequences of texts -/

section Rules

variable {b : Builder} {s t : List Char} {P Q : Builder → Prop}

theorem After.nil (h : P b) : b.After [] P := fun _ _ offset _ => ⟨b, offset, h, rfl⟩

theorem After.append (hs : b.After s Q) (ht : ∀ b', Q b' → b'.After t P) : b.After (s ++ t) P := by
  intro starts uri offset rest
  obtain ⟨b₁, offset₁, hq, h₁⟩ := hs starts uri offset (t ++ rest)
  obtain ⟨b₂, offset₂, hp, h₂⟩ := ht b₁ hq starts uri offset₁ rest
  exact ⟨b₂, offset₂, hp, by rw [List.append_assoc, h₁, h₂]⟩

theorem After.mono (hs : b.After s P) (h : ∀ b', P b' → Q b') : b.After s Q := by
  intro starts uri offset rest
  obtain ⟨b', offset', hp, he⟩ := hs starts uri offset rest
  exact ⟨b', offset', h b' hp, he⟩

theorem Refuses.append_left (hs : b.Refuses s) : b.Refuses (s ++ t) := by
  intro starts uri offset rest
  obtain ⟨e, he⟩ := hs starts uri offset (t ++ rest)
  exact ⟨e, by rw [List.append_assoc, he]⟩

theorem After.refuses (hs : b.After s Q) (ht : ∀ b', Q b' → b'.Refuses t) : b.Refuses (s ++ t) := by
  intro starts uri offset rest
  obtain ⟨b₁, offset₁, hq, h₁⟩ := hs starts uri offset (t ++ rest)
  obtain ⟨e, he⟩ := ht b₁ hq starts uri offset₁ rest
  exact ⟨e, by rw [List.append_assoc, h₁, he]⟩

end Rules

/-! ## Names of open elements -/

theorem names_push (b : Builder) (n : Node) : (b.push n).names = b.names := by
  unfold push names
  split
  · rename_i h
    rw [h]
    rfl
  · rfl

theorem names_pushText (b : Builder) (s : String) : (b.pushText s).names = b.names := by
  unfold pushText names
  split
  · rename_i h
    rw [h]
    rfl
  · rfl

/-! ## What a token does -/

/-- What becomes of a builder when a token is read. -/
inductive Fed (b : Builder) (place : Place) : Token → Builder → Prop where
  | text (chars : List Char) : Fed b place (.text chars) (b.pushText (String.ofList chars))
  | number {number : List Char} {c : Char} : contentChar? number = some c →
    Fed b place (.reference ('#' :: number)) (b.pushText (String.singleton c))
  | character {name : List Char} {c : Char} : name.head? ≠ some '#' → predefined? name = some c →
    Fed b place (.reference name) (b.pushText (String.singleton c))
  | reference {name : List Char} : name.head? ≠ some '#' → predefined? name = none →
    Fed b place (.reference name) (b.push (.reference (String.ofList name)))
  | start {inside : List Char} {tag : Tag} {scope : Scope} :
    readTag b.scope place inside = .ok (tag, scope) →
    Fed b place (.start inside) ⟨⟨tag, scope, []⟩ :: b.opened, b.top⟩
  | empty {inside : List Char} {tag : Tag} {scope : Scope} :
    readTag b.scope place inside = .ok (tag, scope) →
    Fed b place (.empty inside) (b.push (.element tag []))
  | finish {inside : List Char} {e : OpenElement} {rest : List OpenElement} :
    b.opened = e :: rest → e.tag.name.qualified = String.ofList (endName inside) →
    Fed b place (.finish inside)
      (Builder.push ⟨rest, b.top⟩ (.element e.tag e.children.reverse))
  | comment (chars : List Char) :
    Fed b place (.comment chars) (b.push (.comment (String.ofList chars)))
  | cdata (chars : List Char) : Fed b place (.cdata chars) (b.push (.cdata (String.ofList chars)))
  | doctype (keyword chars : List Char) : Fed b place (.doctype keyword chars)
      (b.push (.doctype (String.ofList (Text.trim (chars.dropWhile isSpace)))))
  | declaration {chars text : List Char} {d : Declaration} : declarationText? chars = some text →
    readDeclaration text = .ok d →
    Fed b place (.instruction chars) { b with top := .declaration d :: b.top }
  | instruction {chars : List Char} : declarationText? chars = none →
    Fed b place (.instruction chars) (b.push (readInstruction chars))

theorem Fed.of_pushReference {b b' : Builder} {place : Place} {name : List Char}
    (h : b.pushReference place.offset name = .ok b') : b.Fed place (.reference name) b' := by
  unfold pushReference at h
  split at h
  · split at h <;> cases h
    exact .number ‹_›
  · rename_i hsharp
    have hhead : name.head? ≠ some '#' := fun he => by
      obtain ⟨r, hr⟩ := List.head?_eq_some_iff.mp he
      exact hsharp r hr
    split at h <;> cases h
    · exact .character hhead ‹_›
    · exact .reference hhead ‹_›

theorem Fed.of_close {b b' : Builder} {place : Place} {inside : List Char}
    (h : b.close place.offset (String.ofList (endName inside)) = .ok b') :
    b.Fed place (.finish inside) b' := by
  unfold close at h
  split at h
  · cases h
  · split at h <;> cases h
    exact .finish ‹_› ‹_›

/-- A token that is read does one of these things. -/
theorem Fed.of_feed {b b' : Builder} {place : Place} {t : Token}
    (h : b.feed place t = .ok b') : b.Fed place t b' := by
  cases t with
  | text chars =>
    cases h
    exact .text chars
  | reference name => exact .of_pushReference h
  | start inside =>
    simp only [feed] at h
    cases hr : readTag b.scope place inside <;> rw [hr] at h <;> cases h
    exact .start hr
  | empty inside =>
    simp only [feed] at h
    cases hr : readTag b.scope place inside <;> rw [hr] at h <;> cases h
    exact .empty hr
  | finish inside => exact .of_close h
  | comment chars =>
    cases h
    exact .comment chars
  | cdata chars =>
    cases h
    exact .cdata chars
  | doctype keyword chars =>
    cases h
    exact .doctype keyword chars
  | instruction chars =>
    simp only [feed] at h
    split at h
    · split at h <;> cases h
      exact .declaration ‹_› ‹_›
    · cases h
      exact .instruction ‹_›

theorem pushReference_of_head? {name : List Char} (h : name.head? ≠ some '#') (b : Builder)
    (offset : Nat) : b.pushReference offset name =
      match predefined? name with
      | some c => .ok (b.pushText (String.singleton c))
      | none => .ok (b.push (.reference (String.ofList name))) := by
  unfold pushReference
  split
  · exact absurd rfl h
  · rfl

theorem feed_eq_ok_iff {b b' : Builder} {place : Place} {t : Token} :
    b.feed place t = .ok b' ↔ b.Fed place t b' := by
  refine ⟨.of_feed, fun h => ?_⟩
  cases h with
  | text | comment | cdata | doctype => rfl
  | number hc => simp only [feed, pushReference, hc]
  | character hs hc => simp only [feed, pushReference_of_head? hs, hc]
  | reference hs hn => simp only [feed, pushReference_of_head? hs, hn]
  | start hr | empty hr =>
    simp only [feed, hr]
    rfl
  | finish ho he => simp only [feed, close, ho, he, if_true]
  | declaration ht hd => simp only [feed, ht, hd]
  | instruction hi => simp only [feed, hi]

/-- The lexer opens and closes the same elements as the builder. -/
theorem closeTags_of_fed {b b' : Builder} {place : Place} {t : Token} (h : b.Fed place t b') :
    closeTags b.names t = .ok b'.names := by
  cases h with
  | text | number | character =>
    rw [names_pushText]
    rfl
  | reference | empty | comment | cdata | doctype | instruction =>
    rw [names_push]
    rfl
  | start hr => simp only [closeTags, names, List.map_cons, qualified_of_readTag hr]
  | @finish inside e rest ho he =>
    have hn : b.names = endName inside :: Builder.names ⟨rest, b.top⟩ := by
      unfold names
      rw [ho, List.map_cons, he, String.toList_ofList]
    rw [names_push, hn]
    simp only [closeTags, if_true]
  | declaration => rfl

/-! ## One token -/

/-- What every token keeps, of the builder and of the text that is left, holds when no text is
left. -/
theorem invariant_of_steps {I : Builder → Lexer → Prop} {starts : List Nat} {uri : Option Uri}
    (step : ∀ {b b' : Builder} {l l' : Lexer} {t : Token}, l.next = .ok (some (t, l')) →
      b.Fed ⟨starts, uri, l.offset⟩ t b' → I b l → I b' l')
    {b : Builder} {l : Lexer} (h : I b l) {d : Document} (hr : b.run starts uri l = .ok d) :
    ∃ last l', I last l' ∧ last.finish uri = .ok d := by
  fun_induction Builder.run starts uri b l with
  | case1 | case3 => cases hr
  | case2 b l hnext => exact ⟨b, l, h, hr⟩
  | case4 b l t l' hnext b' hfeed ih => exact ih (step hnext (feed_eq_ok_iff.mp hfeed) h) hr

/-- What every token keeps holds of the builder that a document is made of. -/
theorem invariant_of_run {I : Builder → Prop} {starts : List Nat} {uri : Option Uri}
    (step : ∀ {b b' : Builder} {l l' : Lexer} {t : Token}, l.next = .ok (some (t, l')) →
      b.Fed ⟨starts, uri, l.offset⟩ t b' → I b → I b')
    {b : Builder} (h : I b) {l : Lexer} {d : Document} (hr : b.run starts uri l = .ok d) :
    ∃ last, I last ∧ last.finish uri = .ok d := by
  obtain ⟨last, -, hlast, hfinish⟩ := invariant_of_steps (I := fun b _ => I b) step h hr
  exact ⟨last, hlast, hfinish⟩

theorem run_of_next {b : Builder} {l l' : Lexer} {t : Token} {starts : List Nat} {uri : Option Uri}
    (h : l.next = .ok (some (t, l'))) :
    b.run starts uri l = match b.feed ⟨starts, uri, l.offset⟩ t with
      | .error e => .error e
      | .ok b' => b'.run starts uri l' := by
  rw [run]
  split <;> rename_i he <;> rw [h] at he <;> cases he
  rfl

theorem run_of_next_error {l : Lexer} {e : ReadError} (h : l.next = .error e) (b : Builder)
    (starts : List Nat) (uri : Option Uri) : b.run starts uri l = .error e := by
  rw [run]
  split <;> rename_i he <;> rw [h] at he <;> cases he
  rfl

theorem run_of_nil {l : Lexer} (h : l.rest = []) (b : Builder) (starts : List Nat)
    (uri : Option Uri) : b.run starts uri l = b.finish uri := by
  have hnext : l.next = .ok none := by
    unfold Lexer.next
    rw [h]
    rfl
  rw [run]
  split <;> rename_i he
  · rw [hnext] at he
    cases he
  · rfl
  · rw [hnext] at he
    cases he

theorem reads_nil (b : Builder) (starts : List Nat) (uri : Option Uri) (offset : Nat) :
    b.reads starts uri offset [] = b.finish uri := run_of_nil rfl b starts uri

/-- A text is joined to the text behind it, so what is read whatever follows it begins with a
mark. -/
theorem source_ne_nil {t : Token} (h : t.Legible) : t.source ≠ [] := by
  cases t with
  | text chars =>
    rintro rfl
    have hscan := h ['x']
    cases hscan
  | _ => simp [Token.source]

theorem next_of_scan {l : Lexer} {t : Token} {rest : List Char} {names : List (List Char)}
    (hne : l.rest ≠ []) (hs : Token.scan l.rest = .ok (t, rest))
    (hd : Lexer.checkDoctype l.offset t = .ok ()) (hc : closeTags l.names t = .ok names) :
    l.next = .ok (some (t, ⟨l.offset + octets t.source, names, rest⟩)) := by
  unfold Lexer.next
  rw [if_neg (by simpa using hne), hs]
  simp only [hd, hc]

/-- Whatever else is checked, the next token is the one that is scanned. -/
theorem eq_of_next {l : Lexer} {t : Token} {rest : List Char} {r : Option (Token × Lexer)}
    (hne : l.rest ≠ []) (hs : Token.scan l.rest = .ok (t, rest)) (h : l.next = .ok r) :
    ∃ l', r = some (t, l') := by
  unfold Lexer.next at h
  rw [if_neg (by simpa using hne), hs] at h
  simp only at h
  split at h <;> cases h
  exact ⟨_, rfl⟩

/-- A doctype names something, as long as it is one. -/
def Named : Token → Prop
  | .doctype _ chars => chars.all isSpace = false
  | _ => True

theorem checkDoctype_of_named {t : Token} (h : Named t) (offset : Nat) :
    Lexer.checkDoctype offset t = .ok () := by
  cases t with
  | doctype keyword chars =>
    have hnamed : chars.all isSpace = false := h
    simp [Lexer.checkDoctype, hnamed]
  | _ => rfl

/-- What has been checked when there is a next token, and what is left behind it. -/
theorem scan_of_next {l l' : Lexer} {t : Token} (h : l.next = .ok (some (t, l'))) :
    l.rest ≠ [] ∧ Token.scan l.rest = .ok (t, l'.rest) ∧ Named t ∧
      closeTags l.names t = .ok l'.names ∧ l'.offset = l.offset + octets t.source := by
  unfold Lexer.next at h
  split at h
  · cases h
  · rename_i hne
    split at h
    · cases h
    · rename_i hs
      split at h <;> cases h
      rename_i hd hc
      refine ⟨by simpa using hne, hs, ?_, hc, rfl⟩
      cases t with
      | doctype keyword chars =>
        refine Bool.eq_false_iff.mpr fun hall => ?_
        simp [Lexer.checkDoctype, hall] at hd
      | _ => trivial

theorem rest_of_next_none {l : Lexer} (h : l.next = .ok none) : l.rest = [] := by
  unfold Lexer.next at h
  split at h
  · rename_i hnil
    exact List.isEmpty_iff.mp hnil
  · split at h
    · cases h
    · split at h <;> cases h

section Tokens

variable {b : Builder} {t : Token} {P : Builder → Prop}

theorem after_token (ht : t.Legible) (hn : Named t)
    (h : ∀ place, ∃ b', b.Fed place t b' ∧ P b') : b.After t.source P := by
  intro starts uri offset rest
  obtain ⟨b', hf, hp⟩ := h ⟨starts, uri, offset⟩
  refine ⟨b', offset + octets t.source, hp, ?_⟩
  have hnext := next_of_scan (l := ⟨offset, b.names, t.source ++ rest⟩)
    (List.append_ne_nil_of_left_ne_nil (source_ne_nil ht) _) (ht rest)
    (checkDoctype_of_named hn _) (closeTags_of_fed hf)
  unfold reads
  rw [run_of_next hnext]
  simp only [feed_eq_ok_iff.mpr hf]

theorem refuses_token (ht : t.Legible) (h : ∀ place b', ¬ b.Fed place t b') :
    b.Refuses t.source := by
  intro starts uri offset rest
  unfold reads
  cases hnext : Lexer.next ⟨offset, b.names, t.source ++ rest⟩ with
  | error e' => exact ⟨e', run_of_next_error hnext b starts uri⟩
  | ok r =>
    obtain ⟨l', rfl⟩ := eq_of_next
      (List.append_ne_nil_of_left_ne_nil (source_ne_nil ht) _) (ht rest) hnext
    rw [run_of_next hnext]
    cases hf : b.feed ⟨starts, uri, offset⟩ t with
    | error e => exact ⟨e, rfl⟩
    | ok b' => exact absurd (feed_eq_ok_iff.mp hf) (h _ _)

/-- A doctype that names nothing is refused. -/
theorem refuses_doctype {keyword chars : List Char} (ht : Token.Legible (.doctype keyword chars))
    (h : chars.all isSpace = true) : b.Refuses (Token.doctype keyword chars).source := by
  intro starts uri offset rest
  have hnext : ∃ e, Lexer.next ⟨offset, b.names, (Token.doctype keyword chars).source ++ rest⟩ =
      .error e := by
    have hne : ((Token.doctype keyword chars).source ++ rest).isEmpty = false := rfl
    unfold Lexer.next
    simp only [hne, Bool.false_eq_true, if_false, ht rest, Lexer.checkDoctype, h, if_true]
    exact ⟨_, rfl⟩
  obtain ⟨e, he⟩ := hnext
  exact ⟨e, run_of_next_error he b starts uri⟩

end Tokens

/-! ## Text -/

theorem pushText_pushText (b : Builder) (s t : String) :
    (b.pushText s).pushText t = b.pushText (s ++ t) := by
  have join (nodes : List Node) :
      pushNode (pushNode nodes (.text s)) (.text t) = pushNode nodes (.text (s ++ t)) := by
    cases nodes with
    | nil => rfl
    | cons node rest => cases node <;> simp [pushNode, String.append_assoc]
  cases b with
  | mk opened top =>
    cases opened with
    | nil => simp [pushText, join]
    | cons e rest => simp [pushText, join]

theorem octets_cons (c : Char) (s : List Char) : octets (c :: s) = c.utf8Size + octets s := by
  have shift (s : List Char) (n : Nat) :
      s.foldl (fun n c => n + c.utf8Size) n = n + octets s := by
    unfold octets
    induction s generalizing n with
    | nil => rfl
    | cons d r ih =>
      rw [List.foldl_cons, ih, List.foldl_cons, ih (0 + d.utf8Size)]
      omega
  unfold octets
  rw [List.foldl_cons, shift]
  show 0 + c.utf8Size + octets s = c.utf8Size + octets s
  omega

open Token (endsText)

theorem scan_text {c : Char} (h₁ : c ≠ '<') (h₂ : c ≠ '&') (r : List Char) :
    Token.scan (c :: r) =
      .ok (.text (c :: r.takeWhile (!endsText ·)), r.dropWhile (!endsText ·)) := by
  unfold Token.scan
  split
  · rename_i he
    cases he
    exact absurd rfl h₁
  · rename_i he
    cases he
    exact absurd rfl h₁
  · rename_i he
    cases he
    exact absurd rfl h₁
  · rename_i he
    cases he
    exact absurd rfl h₂
  · rename_i he
    cases he
    rfl
  · rename_i he
    cases he

theorem reads_text (b : Builder) (starts : List Nat) (uri : Option Uri) (offset : Nat) {c : Char}
    (h₁ : c ≠ '<') (h₂ : c ≠ '&') (r : List Char) :
    b.reads starts uri offset (c :: r) =
      (b.pushText (String.ofList (c :: r.takeWhile (!endsText ·)))).reads starts uri
        (offset + octets (c :: r.takeWhile (!endsText ·))) (r.dropWhile (!endsText ·)) := by
  unfold reads
  rw [run_of_next (next_of_scan (l := ⟨offset, b.names, c :: r⟩) (List.cons_ne_nil c r)
    (scan_text h₁ h₂ r) rfl rfl), names_pushText]
  rfl

theorem ofList_singleton (c : Char) : String.ofList [c] = String.singleton c := by
  rw [← String.toList_inj]
  simp

/-- Text may be read one character at a time. -/
theorem reads_cons (b : Builder) (starts : List Nat) (uri : Option Uri) (offset : Nat) {c : Char}
    (h₁ : c ≠ '<') (h₂ : c ≠ '&') (r : List Char) :
    b.reads starts uri offset (c :: r) =
      (b.pushText (String.singleton c)).reads starts uri (offset + c.utf8Size) r := by
  rw [reads_text b starts uri offset h₁ h₂]
  cases r with
  | nil =>
    simp only [List.takeWhile_nil, List.dropWhile_nil, octets_cons, ofList_singleton]
    rfl
  | cons d r =>
    by_cases hd : endsText d = true
    · rw [List.takeWhile_cons_of_neg (by simp [hd]), List.dropWhile_cons_of_neg (by simp [hd])]
      simp only [octets_cons, ofList_singleton]
      rfl
    · have hd : endsText d = false := Bool.eq_false_iff.mpr hd
      have hlt : d ≠ '<' := by
        rintro rfl
        revert hd
        decide
      have hamp : d ≠ '&' := by
        rintro rfl
        revert hd
        decide
      rw [List.takeWhile_cons_of_pos (by simp [hd]), List.dropWhile_cons_of_pos (by simp [hd]),
        reads_text _ starts uri _ hlt hamp, pushText_pushText, ← ofList_singleton,
        ← String.ofList_append]
      simp only [octets_cons, List.singleton_append, Nat.add_assoc]

section Text

variable {b : Builder}

theorem after_char {c : Char} (h₁ : c ≠ '<') (h₂ : c ≠ '&') :
    b.After [c] (· = b.pushText (String.singleton c)) :=
  fun starts uri offset rest => ⟨_, _, rfl, reads_cons b starts uri offset h₁ h₂ rest⟩

theorem after_escapeTextChar (c : Char) :
    b.After (escapeTextChar c) (· = b.pushText (String.singleton c)) := by
  rcases escapeTextChar_cases c with ⟨name, he, hc, hsharp, hn⟩ | ⟨he, h₁, h₂⟩
  · rw [he]
    exact after_token (Token.legible_reference hn) trivial fun place =>
      ⟨_, .character hsharp hc, rfl⟩
  · rw [he]
    exact after_char h₂ h₁

/-- Escaped text is read as the text. -/
theorem after_text {v : String} (hv : v ≠ "") :
    b.After (escapeText v).toList (· = b.pushText v) := by
  have step (s : List Char) (hs : s ≠ []) (b : Builder) :
      b.After (s.flatMap escapeTextChar) (· = b.pushText (String.ofList s)) := by
    induction s generalizing b with
    | nil => exact absurd rfl hs
    | cons c r ih =>
      rw [List.flatMap_cons]
      cases r with
      | nil =>
        refine (after_escapeTextChar c).append fun b' hb => After.nil ?_
        rw [hb, ofList_singleton]
      | cons d r =>
        refine (after_escapeTextChar c).append fun b' hb => (ih (by simp) b').mono fun b'' he => ?_
        rw [he, hb, pushText_pushText]
        congr 1
        rw [← String.toList_inj]
        simp
  rw [toList_escapeText]
  have h := step v.toList (fun he => hv (String.toList_inj.mp (by rw [he]; rfl))) b
  rwa [String.ofList_toList] at h

end Text

/-! ## Documents -/

/-- There is an element at the top level. -/
def Rooted (b : Builder) : Prop := ∃ n ∈ b.top, n.element?.isSome = true

theorem isSome_root?_iff {d : Document} :
    d.root?.isSome = true ↔ ∃ n ∈ d.children, n.element?.isSome = true := by
  unfold Document.root?
  rw [List.findSome?_isSome_iff]

/-- A document is complete if and only if all elements are closed and one is at the top level. -/
theorem finish_eq_ok_iff {b : Builder} {uri : Option Uri} {d : Document} :
    b.finish uri = .ok d ↔ b.opened = [] ∧ b.Rooted ∧ d = ⟨uri, b.top.reverse⟩ := by
  have hroot : (Document.root? ⟨uri, b.top.reverse⟩).isSome = true ↔ b.Rooted := by
    rw [isSome_root?_iff]
    simp [Rooted]
  unfold finish
  split
  · rename_i ho
    simp [ho]
  · rename_i ho
    by_cases hr : b.Rooted
    · simp only [hroot.mpr hr, if_true, Except.ok.injEq]
      exact ⟨fun he => ⟨ho, hr, he.symm⟩, fun he => he.2.2.symm⟩
    · have hnot := mt hroot.mp hr
      simp only [hnot, if_false, reduceCtorEq, false_iff, not_and]
      exact fun _ h => absurd h hr

/-- A text that does not begin with a byte order mark is read from its beginning. -/
theorem ofText_eq {text : List Char} (h : text.head? ≠ some '\ufeff') :
    Lexer.ofText text = ⟨0, [], text⟩ := by
  unfold Lexer.ofText
  split
  · exact absurd rfl h
  · rfl

/-- A document is what the builder comes to, unless its text begins with a byte order mark. -/
theorem parse_of_after {text : String} {P : Builder → Prop} (h : Builder.start.After text.toList P)
    (hb : text.toList.head? ≠ some '\ufeff') (uri : Option Uri) :
    ∃ b, P b ∧ Document.parse text uri = b.finish uri := by
  obtain ⟨b, offset, hp, hr⟩ := h (lineStarts text.toList) uri 0 []
  refine ⟨b, hp, ?_⟩
  rw [List.append_nil, reads_nil] at hr
  rw [← hr]
  unfold Document.parse reads
  simp only [ofText_eq hb]
  rfl

end Builder

end XmlTemplate.Markup
