import XmlTemplate.Expr.Builtin
import XmlTemplate.Proofs.Decimal.Double

/-!
# Which of two integers is greater

Numbers compare as doubles, integers too. So integers compare as the doubles nearest to them:
exactly if those differ, and as equal if they are the same.

* `floatOrder_integer`: the order of two integers is that of the nearest doubles.
* `holds_nearest_eq_iff`: when an operator says of the doubles what it says of the integers.
* `Leads`: what the least and the greatest of several integers are.
-/

namespace XmlTemplate.Expr

open Decimal

variable {v w : Int} {m n : Int64} {ns : List Int64}

/-! ## Comparing -/

/-- The comparison of integers that an operator writes. -/
def Comparison.holds : Comparison → Int → Int → Bool
  | .eq, v, w => v == w
  | .ne, v, w => v != w
  | .lt, v, w => v < w
  | .le, v, w => v ≤ w
  | .gt, v, w => v > w
  | .ge, v, w => v ≥ w

theorem floatOrder_of_standsFor {d d' : Float} (h : StandsFor d v) (h' : StandsFor d' w) :
    floatOrder d d' = some (Ord.compare v w) := by
  rw [floatOrder]
  rcases lt_trichotomy v w with hlt | heq | hgt
  · rw [if_pos ((lt_iff_of_standsFor h h').mpr hlt), Int.compare_eq_lt.mpr hlt]
  · rw [if_neg fun hd => (lt_iff_of_standsFor h h').mp hd |>.ne heq,
      if_pos ((beq_iff_of_standsFor h h').mpr heq), Int.compare_eq_eq.mpr heq]
  · rw [if_neg fun hd => (lt_iff_of_standsFor h h').mp hd |>.not_gt hgt,
      if_neg fun hd => hgt.ne' ((beq_iff_of_standsFor h h').mp hd),
      if_pos ((lt_iff_of_standsFor h' h).mpr hgt), Int.compare_eq_gt.mpr hgt]

theorem standsFor_integer (a : Int64) : StandsFor (Number.integer a).toFloat (nearest a.toInt) := by
  refine standsFor_ofInt ?_
  have hlo := a.le_toInt
  have hhi := a.toInt_lt
  rcases a.toInt.natAbs.eq_zero_or_pos with hzero | hpos
  · rw [hzero]
    decide
  · have : a.toInt.natAbs.log2 < 64 := (Nat.log2_lt hpos.ne').mpr (by omega)
    omega

/-- **Integers are ordered like the doubles nearest to them.** -/
theorem floatOrder_integer (a b : Int64) :
    floatOrder (Number.integer a).toFloat (Number.integer b).toFloat =
      some (Ord.compare (nearest a.toInt) (nearest b.toInt)) :=
  floatOrder_of_standsFor (standsFor_integer a) (standsFor_integer b)

theorem satisfies_compare (op : Comparison) (v w : Int) :
    satisfies op (some (Ord.compare v w)) = op.holds v w := by
  rw [Bool.eq_iff_iff]
  rcases lt_trichotomy v w with h | rfl | h
  · rw [Int.compare_eq_lt.mpr h]
    cases op <;> simp [satisfies, Comparison.holds, h, h.ne, h.le]
  · rw [Int.compare_eq_eq.mpr rfl]
    cases op <;> simp [satisfies, Comparison.holds]
  · rw [Int.compare_eq_gt.mpr h]
    cases op <;> simp [satisfies, Comparison.holds, h, h.ne', h.le]

theorem compare_integer (op : Comparison) (a b : Int64) :
    Sequence.compare op [.integer a] [.integer b] =
      op.holds (nearest a.toInt) (nearest b.toInt) := by
  have horder : order op (Value.integer a) (Value.integer b) =
      some (Ord.compare (nearest a.toInt) (nearest b.toInt)) := floatOrder_integer a b
  simp only [Sequence.compare, List.any_cons, List.any_nil, Bool.or_false, Value.atomize, horder,
    satisfies_compare]

/-- **An operator says of two doubles what it says of the integers** unless the integers differ, the
doubles do not, and the operator tells that. -/
theorem holds_nearest_eq_iff (op : Comparison) (v w : Int) :
    op.holds (nearest v) (nearest w) = op.holds v w ↔
      v = w ∨ nearest v ≠ nearest w ∨ v < w ∧ (op = .le ∨ op = .gt) ∨
        w < v ∧ (op = .ge ∨ op = .lt) := by
  rw [← satisfies_compare, ← satisfies_compare]
  rcases lt_trichotomy v w with h | rfl | h
  · rw [Int.compare_eq_lt.mpr h]
    rcases (nearest_mono h.le).lt_or_eq with hlt | heq
    · rw [Int.compare_eq_lt.mpr hlt]
      exact iff_of_true rfl (.inr (.inl hlt.ne))
    · rw [Int.compare_eq_eq.mpr heq]
      cases op <;> simp [satisfies, bne, h, h.ne, h.not_gt, heq]
  · exact iff_of_true (by rw [Int.compare_eq_eq.mpr rfl, Int.compare_eq_eq.mpr rfl]) (.inl rfl)
  · rw [Int.compare_eq_gt.mpr h]
    rcases (nearest_mono h.le).lt_or_eq with hlt | heq
    · rw [Int.compare_eq_gt.mpr hlt]
      exact iff_of_true rfl (.inr (.inl hlt.ne'))
    · rw [Int.compare_eq_eq.mpr heq.symm]
      cases op <;> simp [satisfies, bne, h, h.ne', h.not_gt, heq]

/-! ## Extremes -/

/-- An item of a list of integers whose double lies beyond those of the items before it, and beyond
which no double of an item after it lies. -/
def Leads (beyond : Int → Int → Prop) (m : Int64) (ns : List Int64) : Prop :=
  ∃ before after, ns = before ++ m :: after ∧
    (∀ n ∈ before, beyond (nearest m.toInt) (nearest n.toInt)) ∧
    ∀ n ∈ after, ¬ beyond (nearest n.toInt) (nearest m.toInt)

variable {wanted : Ordering} {beyond : Int → Int → Prop}

theorem Leads.singleton (m : Int64) : Leads beyond m [m] :=
  ⟨[], [], rfl, fun _ h => absurd h List.not_mem_nil, fun _ h => absurd h List.not_mem_nil⟩

theorem Leads.mem (h : Leads beyond m ns) : m ∈ ns := by
  obtain ⟨before, after, rfl, -, -⟩ := h
  exact List.mem_append_right _ List.mem_cons_self

/-- A further item that does not lie beyond the one so far leaves it in its place. -/
theorem Leads.kept (h : Leads beyond m ns) (hn : ¬ beyond (nearest n.toInt) (nearest m.toInt)) :
    Leads beyond m (ns ++ [n]) := by
  obtain ⟨before, after, rfl, hbefore, hafter⟩ := h
  refine ⟨before, after ++ [n], by rw [List.append_assoc, List.cons_append], hbefore, ?_⟩
  intro x hx
  rcases List.mem_append.mp hx with hx | hx
  · exact hafter x hx
  · rwa [List.mem_singleton.mp hx]

variable [IsStrictTotalOrder Int beyond]

/-- What lies beyond one double lies beyond any that is not beyond that one. -/
theorem beyond_of_not_beyond {x y z : Int} (h : beyond x y) (hz : ¬ beyond z y) : beyond x z := by
  rcases trichotomous_of beyond x z with hxz | rfl | hzx
  · exact hxz
  · exact absurd h hz
  · exact absurd (trans_of beyond hzx h) hz

/-- No double lies beyond that of the item that leads. -/
theorem Leads.not_beyond (h : Leads beyond m ns) (hn : n ∈ ns) :
    ¬ beyond (nearest n.toInt) (nearest m.toInt) := by
  obtain ⟨before, after, rfl, hbefore, hafter⟩ := h
  rcases List.mem_append.mp hn with hn | hn
  · exact asymm_of beyond (hbefore n hn)
  · rcases List.mem_cons.mp hn with rfl | hn
    · exact irrefl_of beyond _
    · exact hafter n hn

/-- No integer lies beyond the one that leads, unless one with the same double does. -/
theorem Leads.extreme_iff (h : Leads beyond m ns)
    (hmono : ∀ v w, beyond v w → ¬ beyond (nearest w) (nearest v)) :
    (∀ x ∈ ns, ¬ beyond x.toInt m.toInt) ↔
      ∀ x ∈ ns, nearest x.toInt = nearest m.toInt → ¬ beyond x.toInt m.toInt := by
  refine ⟨fun hall x hx _ => hall x hx, fun hsame x hx hbeyond => ?_⟩
  rcases trichotomous_of beyond (nearest x.toInt) (nearest m.toInt) with hlt | heq | hgt
  · exact h.not_beyond hx hlt
  · exact hsame x hx heq hbeyond
  · exact hmono _ _ hbeyond hgt

/-- Of integers with one double the first one leads. -/
theorem Leads.eq_head (h : Leads beyond m (n :: ns))
    (heq : ∀ x ∈ ns, nearest x.toInt = nearest n.toInt) : m = n := by
  have hmem := h.mem
  obtain ⟨before, after, hsplit, hbefore, -⟩ := h
  cases before with
  | nil => exact (List.cons.inj hsplit).1.symm
  | cons first before =>
    obtain ⟨rfl, -⟩ := List.cons.inj hsplit
    have hm : nearest m.toInt = nearest n.toInt := by
      rcases List.mem_cons.mp hmem with rfl | hm
      · rfl
      · exact heq m hm
    have hbeyond := hbefore n List.mem_cons_self
    rw [hm] at hbeyond
    exact absurd hbeyond (irrefl_of beyond _)

/-- A further item that lies beyond the one so far takes its place. -/
theorem Leads.overtaken (h : Leads beyond m ns) (hn : beyond (nearest n.toInt) (nearest m.toInt)) :
    Leads beyond n (ns ++ [n]) :=
  ⟨ns, [], rfl, fun _ hx => beyond_of_not_beyond hn (h.not_beyond hx),
    fun _ hx => absurd hx List.not_mem_nil⟩

theorem extremumFrom_cons_integer (wanted : Ordering) (m n : Int64) (rest : Sequence) :
    Builtin.extremumFrom wanted (some (.integer m)) (.integer n :: rest) =
      Builtin.extremumFrom wanted (some (if Ord.compare (nearest n.toInt) (nearest m.toInt) = wanted
        then .integer n else .integer m)) rest := by
  rw [Builtin.extremumFrom]
  show Builtin.extremumFrom wanted (some (if _ = some wanted then _ else _)) rest = _
  simp only [floatOrder_integer, Option.some_inj]

/-- **The search for the furthest item finds the first one.** The induction is on the items that are
left, and the item found so far leads those that have been looked at. -/
theorem extremumFrom_integers (hw : ∀ x y : Int, Ord.compare x y = wanted ↔ beyond x y)
    (rest : List Int64) (h : Leads beyond m ns) :
    ∃ best, Builtin.extremumFrom wanted (some (.integer m)) (rest.map .integer) =
        .ok (some (.integer best)) ∧ Leads beyond best (ns ++ rest) := by
  induction rest generalizing m ns with
  | nil => exact ⟨m, rfl, by rwa [List.append_nil]⟩
  | cons n rest ih =>
    rw [List.map_cons, extremumFrom_cons_integer, List.append_cons]
    by_cases hn : Ord.compare (nearest n.toInt) (nearest m.toInt) = wanted
    · rw [if_pos hn]
      exact ih (h.overtaken ((hw _ _).mp hn))
    · rw [if_neg hn]
      exact ih (h.kept (mt (hw _ _).mpr hn))

theorem extremum_integers (hw : ∀ x y : Int, Ord.compare x y = wanted ↔ beyond x y) (n : Int64)
    (ns : List Int64) :
    ∃ best, Builtin.extremum wanted ((n :: ns).map .integer) = .ok [.integer best] ∧
      Leads beyond best (n :: ns) := by
  obtain ⟨best, hrun, hleads⟩ := extremumFrom_integers hw ns (.singleton n)
  refine ⟨best, ?_, hleads⟩
  rw [Builtin.extremum]
  show (Builtin.extremumFrom wanted (some (.integer n)) (ns.map .integer)).map _ = _
  rw [hrun]
  rfl

theorem callFunction_min (n : Int64) (ns : List Int64) :
    ∃ least, callFunction "min" [(n :: ns).map .integer] = .ok [.integer least] ∧
      Leads (· < ·) least (n :: ns) :=
  extremum_integers (fun _ _ => Int.compare_eq_lt) n ns

theorem callFunction_max (n : Int64) (ns : List Int64) :
    ∃ greatest, callFunction "max" [(n :: ns).map .integer] = .ok [.integer greatest] ∧
      Leads (· > ·) greatest (n :: ns) :=
  extremum_integers (fun _ _ => Int.compare_eq_gt) n ns

theorem min_of_same_nearest (heq : ∀ x ∈ ns, nearest x.toInt = nearest n.toInt) :
    callFunction "min" [(n :: ns).map .integer] = .ok [.integer n] := by
  obtain ⟨least, hmin, hleads⟩ := callFunction_min n ns
  rwa [hleads.eq_head heq] at hmin

theorem max_of_same_nearest (heq : ∀ x ∈ ns, nearest x.toInt = nearest n.toInt) :
    callFunction "max" [(n :: ns).map .integer] = .ok [.integer n] := by
  obtain ⟨greatest, hmax, hleads⟩ := callFunction_max n ns
  rwa [hleads.eq_head heq] at hmax

/-- **Integers compare as the doubles nearest to them.** An operator says of the doubles what it says
of the integers, unless different integers have the same double and the operator tells them from
equal ones. The least and the greatest of several integers are the first ones whose doubles are; so
they are the least and the greatest themselves exactly if no other one with the same double is less
or greater. -/
theorem integers_compare_by_nearest :
    (∀ (op : Comparison) (a b : Int64),
      Sequence.compare op [.integer a] [.integer b] =
          op.holds (nearest a.toInt) (nearest b.toInt) ∧
        (Sequence.compare op [.integer a] [.integer b] = op.holds a.toInt b.toInt ↔
          a = b ∨ nearest a.toInt ≠ nearest b.toInt ∨
            a.toInt < b.toInt ∧ (op = .le ∨ op = .gt) ∨
            b.toInt < a.toInt ∧ (op = .ge ∨ op = .lt))) ∧
      (∀ (n : Int64) (ns : List Int64), ∃ least greatest,
        callFunction "min" [(n :: ns).map .integer] = .ok [.integer least] ∧
        callFunction "max" [(n :: ns).map .integer] = .ok [.integer greatest] ∧
        Leads (· < ·) least (n :: ns) ∧ Leads (· > ·) greatest (n :: ns) ∧
        ((∀ m ∈ n :: ns, least.toInt ≤ m.toInt) ↔
          ∀ m ∈ n :: ns, nearest m.toInt = nearest least.toInt → least.toInt ≤ m.toInt) ∧
        ((∀ m ∈ n :: ns, m.toInt ≤ greatest.toInt) ↔
          ∀ m ∈ n :: ns, nearest m.toInt = nearest greatest.toInt → m.toInt ≤ greatest.toInt)) ∧
      ∀ a : Int64, IsDouble (nearest a.toInt) ∧
        (∀ d, IsDouble d → (nearest a.toInt - a.toInt).natAbs ≤ (d - a.toInt).natAbs) ∧
        (a.toInt.natAbs < 2 ^ 53 → nearest a.toInt = a.toInt) := by
  refine ⟨fun op a b => ⟨compare_integer op a b, ?_⟩, fun n ns => ?_, fun a =>
    ⟨isDouble_nearest _, fun d hd => natAbs_nearest_sub_le hd, nearest_of_natAbs_lt⟩⟩
  · rw [compare_integer, holds_nearest_eq_iff, Int64.toInt_inj]
  · obtain ⟨least, hmin, hleast⟩ := callFunction_min n ns
    obtain ⟨greatest, hmax, hgreatest⟩ := callFunction_max n ns
    refine ⟨least, greatest, hmin, hmax, hleast, hgreatest, ?_, ?_⟩
    · simpa only [Int.not_lt] using hleast.extreme_iff fun _ _ h => (nearest_mono h.le).not_gt
    · simpa only [gt_iff_lt, Int.not_lt] using
        hgreatest.extreme_iff fun _ _ h => (nearest_mono h.le).not_gt

theorem integers_compare_by_nearest_adjacent :
    Sequence.compare .lt [.integer 9007199254740992] [.integer 9007199254740993] ≠
        Comparison.holds .lt 9007199254740992 9007199254740993 ∧
      (nearest 9007199254740993 - 9007199254740993).natAbs ≤
        (9007199254740994 - 9007199254740993 : Int).natAbs ∧
      nearest 9007199254740991 = 9007199254740991 := by
  obtain ⟨hcompare, -, hdouble⟩ := integers_compare_by_nearest
  refine ⟨fun h => ?_, ?_, (hdouble 9007199254740991).2.2 (by decide)⟩
  · exact absurd ((hcompare .lt 9007199254740992 9007199254740993).2.mp h) (by decide +kernel)
  · exact (hdouble 9007199254740993).2.1 9007199254740994
      ⟨4503599627370497, 1, by decide, by decide⟩

/-- Integers that have the same double are equal to it, and the first of them is both the least and
the greatest. -/
theorem integers_not_compared_exactly :
    (¬ ∀ (op : Comparison) (a b : Int64),
      Sequence.compare op [.integer a] [.integer b] = op.holds a.toInt b.toInt) ∧
    (¬ ∀ (n : Int64) (ns : List Int64), ∃ least : Int64,
      callFunction "min" [(n :: ns).map .integer] = .ok [.integer least] ∧
        ∀ m ∈ n :: ns, least.toInt ≤ m.toInt) ∧
    ¬ ∀ (n : Int64) (ns : List Int64), ∃ greatest : Int64,
      callFunction "max" [(n :: ns).map .integer] = .ok [.integer greatest] ∧
        ∀ m ∈ n :: ns, m.toInt ≤ greatest.toInt := by
  have hnearest : nearest (9007199254740993 : Int64).toInt =
      nearest (9007199254740992 : Int64).toInt := by decide +kernel
  refine ⟨fun h => ?_, fun h => ?_, fun h => ?_⟩
  · have hexact := h .eq 9007199254740992 9007199254740993
    rw [compare_integer, hnearest] at hexact
    exact absurd hexact (by decide)
  · obtain ⟨least, hmin, hle⟩ := h 9007199254740993 [9007199254740992]
    rw [min_of_same_nearest (by simpa using hnearest.symm)] at hmin
    obtain rfl : 9007199254740993 = least := by simpa using hmin
    exact absurd (hle 9007199254740992 (by simp)) (by decide)
  · obtain ⟨greatest, hmax, hge⟩ := h 9007199254740992 [9007199254740993]
    rw [max_of_same_nearest (by simpa using hnearest)] at hmax
    obtain rfl : 9007199254740992 = greatest := by simpa using hmax
    exact absurd (hge 9007199254740993 (by simp)) (by decide)

end XmlTemplate.Expr
