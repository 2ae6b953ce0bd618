import XmlTemplate.Markup.Token

/-!
# The inside of a tag

A name, and after it attributes as they are written.

* `tagName`, `afterName`: the two parts of the inside of a tag.
* `cutKey`, `cutValue`: the key and the value of one attribute.
* `rawAttributes`: the attributes up to the first malformed one, and what is wrong with that one.
-/

namespace XmlTemplate.Markup

/-- The name that a tag begins with. -/
def tagName (inside : List Char) : List Char := inside.takeWhile (!isSpace ·)

/-- What follows the name of a tag. -/
def afterName (inside : List Char) : List Char := inside.dropWhile (!isSpace ·)

/-- The name in an end tag, which white space may follow. -/
def endName (inside : List Char) : List Char :=
  match inside.reverse.dropWhile isSpace with
  | [] => inside
  | trimmed => trimmed.reverse

/-- An attribute whose value has not been decoded. -/
structure RawAttribute where
  key : List Char
  value : List Char
deriving DecidableEq, Repr

/-- Characters that end the key of an attribute. -/
def endsKey (c : Char) : Bool := c == '=' || isSpace c

/-- The key at the start of a text and what follows the equals sign after it. The first
character belongs to the key whatever it is. -/
def cutKey (s : List Char) : Except AttributeFault (List Char × List Char) :=
  match s with
  | [] => .error .expectedEquals
  | c :: r =>
    match (r.dropWhile (!endsKey ·)).dropWhile isSpace with
    | '=' :: rest => .ok (c :: r.takeWhile (!endsKey ·), rest)
    | _ => .error .expectedEquals

/-- The quoted value at the start of a text and what follows its closing mark. -/
def cutValue (s : List Char) : Except AttributeFault (List Char × List Char) :=
  match s.dropWhile isSpace with
  | [] => .error .expectedValue
  | q :: r =>
    if q == '"' || q == '\'' then
      match r.dropWhile (· != q) with
      | _ :: rest => .ok (r.takeWhile (· != q), rest)
      | [] => .error .expectedQuote
    else .error .unquotedValue

theorem length_dropWhile_le (p : Char → Bool) (s : List Char) : (s.dropWhile p).length ≤ s.length :=
  (List.dropWhile_suffix p).length_le

theorem length_lt_of_cutKey {s key rest : List Char} (h : cutKey s = .ok (key, rest)) :
    rest.length < s.length := by
  unfold cutKey at h
  split at h
  · simp at h
  · rename_i c r
    split at h <;> simp only [Except.ok.injEq, Prod.mk.injEq, reduceCtorEq] at h
    rename_i hd
    obtain ⟨-, rfl⟩ := h
    have h₁ := length_dropWhile_le isSpace (r.dropWhile (!endsKey ·))
    have h₂ := length_dropWhile_le (!endsKey ·) r
    rw [hd] at h₁
    simp only [List.length_cons] at *
    omega

theorem length_le_of_cutValue {s value rest : List Char} (h : cutValue s = .ok (value, rest)) :
    rest.length ≤ s.length := by
  unfold cutValue at h
  split at h
  · simp at h
  · rename_i q r hs
    have h₁ := length_dropWhile_le isSpace s
    rw [hs] at h₁
    split at h
    · split at h <;> simp only [Except.ok.injEq, Prod.mk.injEq, reduceCtorEq] at h
      rename_i hd
      obtain ⟨-, rfl⟩ := h
      have h₂ := length_dropWhile_le (· != q) r
      rw [hd] at h₂
      simp only [List.length_cons] at *
      omega
    · simp at h

/-- The attributes of a text up to the first malformed one. A key that is among `seen` is
malformed too, unless `seen` is none: then keys may be repeated. -/
def rawAttributes (seen : Option (List (List Char))) (s : List Char) :
    List RawAttribute × Option AttributeFault :=
  if s.dropWhile isSpace = [] then ([], none)
  else
    match _hk : cutKey (s.dropWhile isSpace) with
    | .error fault => ([], some fault)
    | .ok (key, r) =>
      if (seen.getD []).contains key then ([], some .duplicated)
      else
        match _hv : cutValue r with
        | .error fault => ([], some fault)
        | .ok (value, rest) =>
          let (others, fault) := rawAttributes (seen.map (key :: ·)) rest
          (⟨key, value⟩ :: others, fault)
termination_by s.length
decreasing_by
  have h₁ := length_lt_of_cutKey _hk
  have h₂ := length_le_of_cutValue _hv
  have h₃ := length_dropWhile_le isSpace s
  omega

end XmlTemplate.Markup
