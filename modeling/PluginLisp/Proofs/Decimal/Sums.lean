import PluginLisp.Arithmetic
import PluginLisp.Proofs.Decimal.Arithmetic
import PluginLisp.Proofs.Decimal.Floats
import PluginLisp.Value.Order

/-!
Sums with a decimal among their terms. Every finite float becomes a decimal, so such a sum is the exact
one in lowest terms, whatever the order of the terms.

Main result: `decimal_arithmetic_exact`.
-/

namespace PluginLisp

/-! ### Operands -/

/-- Decimals, and the floats that become decimals. -/
def Value.IsExact : Value → Prop
  | .decimal _ => True
  | .number x => Number.isFinite x = true
  | _ => False

/-- The number that such a value stands for as an operand. -/
def Value.rational (v : Value) : ℚ := (v.toDecimal?.getD .zero).val

theorem Decimal.exists_ofFloat? {x : Float} (finite : Number.isFinite x = true) :
    ∃ d, Decimal.ofFloat? x = some d := by
  unfold Number.isFinite at finite
  cases kind : Number.Kind.ofFloat x with
  | finite b =>
      obtain ⟨d, made, -⟩ := exists_ofFloat?_of_finite kind
      exact ⟨d, made⟩
  | infinite negative =>
      rw [kind] at finite
      cases finite
  | nan =>
      rw [kind] at finite
      cases finite

theorem Operands.checkNumber_exact {v : Value} (exact : v.IsExact) : checkNumber v = .ok () := by
  cases v with
  | decimal d => rfl
  | number x => rfl
  | _ => cases exact

theorem Operands.toDecimal_exact {v : Value} (exact : v.IsExact) :
    toDecimal v = .ok (v.toDecimal?.getD .zero) := by
  cases v with
  | decimal d => rfl
  | number x =>
      obtain ⟨d, made⟩ := Decimal.exists_ofFloat? exact
      simp [toDecimal, Value.toDecimal?, made]
  | _ => cases exact

theorem Operands.forM_checkNumber_exact {args : List Value} (exact : ∀ v ∈ args, v.IsExact) :
    args.forM checkNumber = .ok () := by
  induction args with
  | nil => rfl
  | cons v rest ih =>
      rw [List.forM_eq_forM, List.forM_cons, checkNumber_exact (exact v List.mem_cons_self)]
      exact ih fun w mem => exact w (List.mem_cons_of_mem v mem)

theorem Operands.mapM_toDecimal_exact {args : List Value} (exact : ∀ v ∈ args, v.IsExact) :
    args.mapM toDecimal = .ok (args.map fun v => v.toDecimal?.getD .zero) := by
  induction args with
  | nil => rfl
  | cons v rest ih =>
      rw [List.mapM_cons, toDecimal_exact (exact v List.mem_cons_self),
        ih fun w mem => exact w (List.mem_cons_of_mem v mem)]
      rfl

/-- One decimal among the operands makes decimals of them all. -/
theorem Operands.ofValues_exact {args : List Value} (exact : ∀ v ∈ args, v.IsExact)
    (promoted : ∃ d, .decimal d ∈ args) :
    ofValues args = .ok (.decimals (args.map fun v => v.toDecimal?.getD .zero)) := by
  obtain ⟨d, mem⟩ := promoted
  unfold ofValues
  rw [forM_checkNumber_exact exact, mapM_toDecimal_exact exact, if_pos]
  · rfl
  · exact List.any_eq_true.2 ⟨.decimal d, mem, rfl⟩

/-! ### Sums -/

namespace Decimal

theorem foldl_add_val (start : Decimal) (terms : List Decimal) :
    (terms.foldl add start).val = start.val + (terms.map val).sum := by
  induction terms generalizing start with
  | nil => simp
  | cons term rest ih =>
      rw [List.foldl_cons, ih, val_add, List.map_cons, List.sum_cons, add_assoc]

theorem foldl_add_lowestTerms {start : Decimal} (lowest : start.LowestTerms) (terms : List Decimal) :
    (terms.foldl add start).LowestTerms := by
  induction terms generalizing start with
  | nil => exact lowest
  | cons term rest ih => exact ih (lowestTerms_make _ _)

end Decimal

theorem applyOperator_add_exact {args : List Value} (exact : ∀ v ∈ args, v.IsExact)
    (promoted : ∃ d, .decimal d ∈ args) :
    ∃ d, applyOperator "+" args = .ok (.decimal d) ∧ d.LowestTerms ∧
      d.val = (args.map Value.rational).sum := by
  refine ⟨(args.map fun v => v.toDecimal?.getD .zero).foldl Decimal.add .zero, ?_,
    Decimal.foldl_add_lowestTerms (Or.inl rfl) _, ?_⟩
  · change Operator.add.apply args = _
    rw [Operator.apply, Operands.ofValues_exact exact promoted]
    rfl
  · rw [Decimal.foldl_add_val, List.map_map, Decimal.val_eq_zero.2 rfl, zero_add]
    rfl

/-- Decimal arithmetic is exact over the rationals, products and powers as long as their scales fit the
    word. A sum of decimals and finite floats with a decimal among them is the exact sum, and the same
    decimal for every order of the terms. -/
theorem decimal_arithmetic_exact :
    (∀ a b : Decimal, (a.add b).val = a.val + b.val ∧ (a.sub b).val = a.val - b.val ∧
      a.neg.val = -a.val ∧ a.abs.val = |a.val| ∧ a.cmp b = compare a.val b.val ∧
      ((Value.decimal a).equal (.decimal b) = true ↔ a.val = b.val) ∧
      (a.scale.toNat + b.scale.toNat < UInt32.size →
        ∃ p, a.mul b = .ok p ∧ p.val = a.val * b.val) ∧
      ∀ e : UInt32, a.scale.toNat * e.toNat < UInt32.size →
        ∃ p, a.pow e = .ok p ∧ p.val = a.val ^ e.toNat) ∧
    ∀ args permuted : List Value, (∀ v ∈ args, v.IsExact) → (∃ d, .decimal d ∈ args) →
      args.Perm permuted →
      ∃ d, applyOperator "+" args = .ok (.decimal d) ∧ applyOperator "+" permuted = .ok (.decimal d) ∧
        d.val = (args.map Value.rational).sum := by
  constructor
  · intro a b
    refine ⟨a.val_add b, a.val_sub b, a.val_neg, a.val_abs, a.cmp_eq b, ?_,
      (Decimal.answers_mul a b).exact, fun e => (Decimal.answers_pow a e).exact⟩
    rw [Value.equal, beq_iff_eq, Decimal.cmp_eq_eq_iff]
  · intro args permuted exact promoted perm
    have exactToo : ∀ v ∈ permuted, v.IsExact := fun v mem => exact v (perm.mem_iff.2 mem)
    have promotedToo : ∃ d, .decimal d ∈ permuted := promoted.imp fun d mem => perm.mem_iff.1 mem
    obtain ⟨d, sum, lowest, value⟩ := applyOperator_add_exact exact promoted
    obtain ⟨e, sumToo, lowestToo, valueToo⟩ := applyOperator_add_exact exactToo promotedToo
    have same : d = e := by
      apply lowest.eq_of_val_eq lowestToo
      rw [value, valueToo, (perm.map Value.rational).sum_eq]
    exact ⟨d, sum, by rw [sumToo, same], value⟩

theorem decimal_arithmetic_exact_mixed :
    (∃ p, Decimal.mul ⟨25, 1⟩ ⟨1, 4294967294⟩ = .ok p ∧
      p.val = Decimal.val ⟨25, 1⟩ * Decimal.val ⟨1, 4294967294⟩) ∧
      (∃ p, Decimal.pow ⟨-5, 2⟩ 3 = .ok p ∧ p.val = Decimal.val ⟨-5, 2⟩ ^ 3) ∧
      ∃ d, applyOperator "+" [.number 0.2, .decimal ⟨1, 1⟩, .decimal ⟨-3, 0⟩] = .ok (.decimal d) ∧
        applyOperator "+" [.decimal ⟨-3, 0⟩, .decimal ⟨1, 1⟩, .number 0.2] = .ok (.decimal d) := by
  obtain ⟨arithmetic, sums⟩ := decimal_arithmetic_exact
  have exact : ∀ v ∈ [Value.number 0.2, .decimal ⟨1, 1⟩, .decimal ⟨-3, 0⟩], v.IsExact := by
    have finite : Number.isFinite 0.2 = true := by decide +kernel
    simp [Value.IsExact, finite]
  obtain ⟨-, -, -, -, -, -, product, -⟩ := arithmetic ⟨25, 1⟩ ⟨1, 4294967294⟩
  obtain ⟨-, -, -, -, -, -, -, power⟩ := arithmetic ⟨-5, 2⟩ .zero
  obtain ⟨d, sum, reversed, -⟩ := sums _ _ exact ⟨⟨1, 1⟩, by simp⟩ (List.reverse_perm _).symm
  exact ⟨product (by decide), power 3 (by decide), d, sum, reversed⟩

end PluginLisp
