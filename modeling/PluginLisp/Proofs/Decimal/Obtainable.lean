import PluginLisp.Proofs.Decimal.Value

/-!
The decimals that programs can meet. All of them are in lowest terms, whatever operations they came
from; so each number has one decimal and one text, and the integers are the decimals without places.

Main result: `Obtainable.in_lowest_terms`.
-/

namespace PluginLisp.Decimal

/-- What comes out of reading, converting and computing. -/
inductive Obtainable : Decimal → Prop where
  | read {s : String} {d : Decimal} (reads : ofText s = .ok d) : Obtainable d
  | ofFloat {x : Float} {d : Decimal} (converts : ofFloat? x = some d) : Obtainable d
  | make (mantissa : Int) (scale : UInt32) : Obtainable (make mantissa scale)
  | zero : Obtainable zero
  | add {a b : Decimal} (left : Obtainable a) (right : Obtainable b) : Obtainable (a.add b)
  | sub {a b : Decimal} (left : Obtainable a) (right : Obtainable b) : Obtainable (a.sub b)
  | mul {a b p : Decimal} (left : Obtainable a) (right : Obtainable b) (product : a.mul b = .ok p) :
      Obtainable p
  | div {a b q : Decimal} (left : Obtainable a) (right : Obtainable b) (quotient : a.div b = .ok q) :
      Obtainable q
  | rem {a b r : Decimal} (left : Obtainable a) (right : Obtainable b) (rest : a.rem? b = some r) :
      Obtainable r
  | neg {a : Decimal} (operand : Obtainable a) : Obtainable a.neg
  | abs {a : Decimal} (operand : Obtainable a) : Obtainable a.abs
  | trunc {a : Decimal} (operand : Obtainable a) : Obtainable a.trunc
  | floor {a : Decimal} (operand : Obtainable a) : Obtainable a.floor
  | ceil {a : Decimal} (operand : Obtainable a) : Obtainable a.ceil
  | round {a : Decimal} (operand : Obtainable a) : Obtainable a.round
  | pow {a p : Decimal} (operand : Obtainable a) {e : UInt32} (power : a.pow e = .ok p) : Obtainable p

theorem lowestTerms_floor (a : Decimal) : a.floor.LowestTerms := by
  unfold floor
  split
  · exact lowestTerms_make _ _
  · exact lowestTerms_make _ _

theorem lowestTerms_ceil (a : Decimal) : a.ceil.LowestTerms := by
  unfold ceil
  split
  · exact lowestTerms_make _ _
  · exact lowestTerms_make _ _

theorem lowestTerms_round (a : Decimal) : a.round.LowestTerms := by
  unfold round
  simp only
  split
  · exact lowestTerms_make _ _
  · exact lowestTerms_make _ _

theorem Obtainable.lowestTerms {d : Decimal} (obtained : Obtainable d) : d.LowestTerms := by
  induction obtained with
  | read reads => exact lowestTerms_of_ofText reads
  | ofFloat converts => exact lowestTerms_of_ofFloat? converts
  | make mantissa scale => exact lowestTerms_make mantissa scale
  | zero => exact Or.inl rfl
  | add => exact lowestTerms_make _ _
  | sub => exact lowestTerms_make _ _
  | mul _ _ product => exact lowestTerms_of_mul product
  | div _ _ quotient => exact lowestTerms_of_div quotient
  | rem _ _ rest => exact lowestTerms_of_rem? rest
  -- these two keep the scale and have only their operand to rest on
  | neg _ lowest => exact lowest.neg
  | abs _ lowest => exact lowest.abs
  | trunc => exact lowestTerms_make _ _
  | floor => exact lowestTerms_floor _
  | ceil => exact lowestTerms_ceil _
  | round => exact lowestTerms_round _
  | pow _ power => exact lowestTerms_of_pow power

/-- Decimals in lowest terms that have the same text are the same. -/
theorem LowestTerms.text_inj {a b : Decimal} (left : a.LowestTerms) (right : b.LowestTerms)
    (same : a.text = b.text) : a = b := by
  have reads := (ofText_text left).1
  rw [same, (ofText_text right).1] at reads
  exact (Except.ok.inj reads).symm

/-- Every decimal that can be obtained is in lowest terms. Hence zero has no places, a decimal has no
    places exactly if it is an integer, and two of them are equal exactly if their texts are. -/
theorem Obtainable.in_lowest_terms {a b : Decimal} (left : Obtainable a) (right : Obtainable b) :
    a.LowestTerms ∧ (a.mantissa = 0 → a.scale = 0) ∧ (a.isInteger = true ↔ ∃ n : ℤ, a.val = n) ∧
      (a.cmp b = .eq ↔ a.text = b.text) := by
  have lowest := left.lowestTerms
  have lowestRight := right.lowestTerms
  refine ⟨lowest, ?_, lowest.isInteger_iff, ?_⟩
  · intro zero
    exact lowest.resolve_right (by simp [zero])
  · rw [cmp_eq_eq_iff]
    constructor
    · intro same
      rw [lowest.eq_of_val_eq lowestRight same]
    · intro same
      rw [lowest.text_inj lowestRight same]

theorem equal_results_print_alike :
    Obtainable (sub ⟨25, 1⟩ ⟨5, 1⟩) ∧ Obtainable (trunc ⟨29, 1⟩) ∧
      (sub ⟨25, 1⟩ ⟨5, 1⟩).text = (trunc ⟨29, 1⟩).text := by
  have difference : Obtainable (sub ⟨25, 1⟩ ⟨5, 1⟩) :=
    .sub (.read (s := "2.50") (by decide +kernel)) (.ofFloat (x := 0.5) (by decide +kernel))
  have whole : Obtainable (trunc ⟨29, 1⟩) := .trunc (.make 290 2)
  have same : (sub ⟨25, 1⟩ ⟨5, 1⟩).cmp (trunc ⟨29, 1⟩) = .eq := by decide +kernel
  exact ⟨difference, whole, (difference.in_lowest_terms whole).2.2.2.1 same⟩

end PluginLisp.Decimal
