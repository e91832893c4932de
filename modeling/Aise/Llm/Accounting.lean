import Aise.Llm.Gateway

/-! What a call to the model is charged. The price of each kind of token is cut down to an `i64`
before the three are added, and only the addition saturates. -/
namespace Aise.Domain
open Saturating

/-- Three prices that are set, none of which is negative. -/
structure Prices where
  input : Int64
  cachedInput : Int64
  output : Int64
  nonnegative : 0 ≤ input.toInt ∧ 0 ≤ cachedInput.toInt ∧ 0 ≤ output.toInt

def TokenAccountant.priced (accountant : TokenAccountant) (prices : Prices) : TokenAccountant :=
  { accountant with
    inputPricePer1k := some prices.input
    cachedInputPricePer1k := some prices.cachedInput
    outputPricePer1k := some prices.output }

/-- `⌊tokens * price / 1000⌋`. -/
def exactPrice (tokens : UInt64) (pricePer1k : Int64) : Nat :=
  tokens.toNat * pricePer1k.toInt.toNat / 1000

/-- A number as an `i64`, which keeps its last 64 bits. -/
def narrowed (value : Nat) : Int := Int.bmod value (2 ^ 64)

namespace Prices
variable (prices : Prices) (usage : LlmTokenUsage)

def inputTerm : Nat :=
  exactPrice (sub usage.inputTokens (usage.cachedInputTokens.getD 0)) prices.input

def cachedTerm : Nat := exactPrice (usage.cachedInputTokens.getD 0) prices.cachedInput

def outputTerm : Nat := exactPrice usage.outputTokens prices.output

/-- The sum of the three terms, capped at `i64::MAX`. -/
def due : Int :=
  min (prices.inputTerm usage + prices.cachedTerm usage + prices.outputTerm usage : Nat) (2 ^ 63 - 1)

/-- The amount that is charged. -/
def charged (accountant : TokenAccountant) : Option Int :=
  ((accountant.priced prices).charge usage).map (·.amountMinor.toInt)

/-- Every term is an `i64`; or what is left of them adds up to the cap all the same. -/
def Fits : Prop :=
  (prices.inputTerm usage < 2 ^ 63 ∧ prices.cachedTerm usage < 2 ^ 63 ∧
    prices.outputTerm usage < 2 ^ 63) ∨
  (0 ≤ narrowed (prices.outputTerm usage) ∧
    2 ^ 63 - 1 ≤ narrowed (prices.inputTerm usage) + narrowed (prices.cachedTerm usage) +
      narrowed (prices.outputTerm usage))

end Prices

/-- As many tokens or more, with as many of the input cached. -/
structure LlmTokenUsage.Grows (usage more : LlmTokenUsage) : Prop where
  cached : more.cachedInputTokens.getD 0 = usage.cachedInputTokens.getD 0
  input : usage.inputTokens ≤ more.inputTokens
  output : usage.outputTokens ≤ more.outputTokens

/-! ### Amounts -/

theorem priceForTokens_toInt (tokens : UInt64) {price : Int64} (nonnegative : 0 ≤ price.toInt) :
    (priceForTokens tokens price).toInt = narrowed (exactPrice tokens price) := by
  have product : (tokens.toNat * price.toInt).tdiv 1000 = (exactPrice tokens price : Int) := by
    obtain ⟨value, same⟩ := Int.eq_ofNat_of_zero_le nonnegative
    rw [exactPrice, same, Int.toNat_natCast, ← Int.natCast_mul, Int.natCast_ediv]
    exact Int.tdiv_eq_ediv_of_nonneg (Int.natCast_nonneg _)
  rw [priceForTokens, Int64.toInt_ofInt, product]
  rfl

theorem addAmounts_toInt (a b : Int64) :
    (addAmounts a b).toInt = max (-2 ^ 63) (min (a.toInt + b.toInt) (2 ^ 63 - 1)) := by
  rw [addAmounts]
  apply Int64.toInt_ofInt_of_le
  · omega
  · omega

theorem narrowed_range (value : Nat) : -2 ^ 63 ≤ narrowed value ∧ narrowed value < 2 ^ 63 := by
  unfold narrowed
  constructor
  · have least := Int.le_bmod (x := value) (m := 2 ^ 64) (by decide)
    omega
  · have greatest := Int.bmod_lt (x := value) (m := 2 ^ 64) (by decide)
    omega

theorem narrowed_of_lt {value : Nat} (small : value < 2 ^ 63) : narrowed value = value := by
  apply Int.bmod_eq_of_le
  · omega
  · omega

/-- Three amounts that saturate as they are added reach the cap if and only if the last one is not
negative and their sum reaches it. -/
theorem saturated_iff {a b c : Int} (last : c < 2 ^ 63) (least : -2 ^ 63 ≤ c) :
    max (-2 ^ 63) (min (max (-2 ^ 63) (min (a + b) (2 ^ 63 - 1)) + c) (2 ^ 63 - 1)) = 2 ^ 63 - 1 ↔
      0 ≤ c ∧ 2 ^ 63 - 1 ≤ a + b + c := by
  omega

namespace Prices
variable {accountant : TokenAccountant} {prices : Prices} {usage more : LlmTokenUsage}

theorem charged_eq : prices.charged usage accountant =
    some (max (-2 ^ 63) (min (max (-2 ^ 63) (min (narrowed (prices.inputTerm usage) +
      narrowed (prices.cachedTerm usage)) (2 ^ 63 - 1)) + narrowed (prices.outputTerm usage))
        (2 ^ 63 - 1))) := by
  obtain ⟨input, cached, output⟩ := prices.nonnegative
  have inputCost := priceForTokens_toInt
    (sub usage.inputTokens (usage.cachedInputTokens.getD 0)) input
  have cachedCost := priceForTokens_toInt (usage.cachedInputTokens.getD 0) cached
  have outputCost := priceForTokens_toInt usage.outputTokens output
  unfold charged inputTerm cachedTerm outputTerm
  rw [← inputCost, ← cachedCost, ← outputCost, ← addAmounts_toInt, ← addAmounts_toInt]
  rfl

theorem charged_iff_fits : prices.charged usage accountant = some (prices.due usage) ↔
    prices.Fits usage := by
  rw [charged_eq, Option.some.injEq, due, Fits]
  generalize prices.inputTerm usage = a
  generalize prices.cachedTerm usage = b
  generalize prices.outputTerm usage = c
  obtain ⟨_, _⟩ := narrowed_range a
  obtain ⟨_, _⟩ := narrowed_range b
  obtain ⟨_, _⟩ := narrowed_range c
  by_cases small : a < 2 ^ 63 ∧ b < 2 ^ 63 ∧ c < 2 ^ 63
  · obtain ⟨first, second, third⟩ := small
    rw [narrowed_of_lt first, narrowed_of_lt second, narrowed_of_lt third]
    refine iff_of_true ?_ (.inl ⟨first, second, third⟩)
    omega
  · have capped : min ((a + b + c : Nat) : Int) (2 ^ 63 - 1) = 2 ^ 63 - 1 := by omega
    rw [capped, saturated_iff (by omega) (by omega), or_iff_right small]

theorem due_nonneg : 0 ≤ prices.due usage := by
  unfold due
  omega

theorem due_mono (grows : usage.Grows more) : prices.due usage ≤ prices.due more := by
  have monotone {fewer tokens : UInt64} (price : Int64) (below : fewer.toNat ≤ tokens.toNat) :
      exactPrice fewer price ≤ exactPrice tokens price :=
    Nat.div_le_div_right (Nat.mul_le_mul_right _ below)
  have input : prices.inputTerm usage ≤ prices.inputTerm more := by
    apply monotone
    rw [toNat_sub, toNat_sub, grows.cached]
    exact Nat.sub_le_sub_right (UInt64.le_iff_toNat_le.mp grows.input) _
  have cached : prices.cachedTerm usage = prices.cachedTerm more := by
    rw [cachedTerm, cachedTerm, grows.cached]
  have output : prices.outputTerm usage ≤ prices.outputTerm more :=
    monotone _ (UInt64.le_iff_toNat_le.mp grows.output)
  unfold due
  omega

end Prices

/-- With prices that are not negative, the capped sum of the three terms is charged exactly where
each term is an `i64`, but for terms that happen to narrow to the cap; and there the amount is not
negative and grows with the tokens. -/
theorem charge_exact_iff (accountant : TokenAccountant) (prices : Prices) (usage : LlmTokenUsage) :
    (prices.charged usage accountant = some (prices.due usage) ↔ prices.Fits usage) ∧
      (prices.Fits usage → ∃ amount, prices.charged usage accountant = some amount ∧ 0 ≤ amount ∧
        ∀ more, usage.Grows more → prices.Fits more →
          ∃ larger, prices.charged more accountant = some larger ∧ amount ≤ larger) := by
  refine ⟨Prices.charged_iff_fits, fun fits => ?_⟩
  refine ⟨prices.due usage, Prices.charged_iff_fits.mpr fits, Prices.due_nonneg, ?_⟩
  intro more grows later
  exact ⟨prices.due more, Prices.charged_iff_fits.mpr later, Prices.due_mono grows⟩

namespace Accounting.Sample

def prices : Prices := ⟨1000, 100, 2000, by decide⟩

def accountant : TokenAccountant := ⟨"openai_compat", "sample", "v1", none, none, none⟩

/-- What a server reports as `2 ^ 63` tokens of input costs less than nothing. -/
theorem large_report_negative :
    ¬∀ (accountant : TokenAccountant) (prices : Prices) (usage : LlmTokenUsage),
      prices.charged usage accountant = some (prices.due usage) := by
  intro exact
  have charged := exact accountant prices ⟨2 ^ 63, none, 0, none, 2 ^ 63, .exact⟩
  have negative : prices.charged ⟨2 ^ 63, none, 0, none, 2 ^ 63, .exact⟩ accountant = some (-2 ^ 63) := by
    decide +kernel
  rw [negative] at charged
  exact absurd charged (by decide +kernel)

end Accounting.Sample

end Aise.Domain
