import Mathlib.Logic.Basic
import Mathlib.Tactic.Common

/-! Texts that can be read from the front. A record is written part after part; each part tells
something of the record, and where the next one begins. -/
namespace PrefixCode
variable {α β γ S : Type*}

/-- A text that begins with the code of a record tells this much of it, and what stands behind. -/
def Reads (valid : α → Prop) (encode : α → List S) (view : α → β) : Prop :=
  ∀ ⦃first second rest other⦄, valid first → valid second →
    encode first ++ rest = encode second ++ other → view first = view second ∧ rest = other

variable {valid : α → Prop} {encode : α → List S} {view : α → β}

theorem Reads.eq (reads : Reads valid encode view) {first second : α} (good : valid first)
    (fine : valid second) (same : encode first = encode second) : view first = view second := by
  have padded : encode first ++ [] = encode second ++ [] := by rw [same]
  exact (reads good fine padded).1

theorem reads_constant (text : List S) : Reads valid (fun _ => text) (fun _ => ()) :=
  fun _ _ _ _ _ _ same => ⟨rfl, List.append_cancel_left same⟩

/-- What one value tells, a record tells that has it for a part. -/
theorem Reads.comp {part : γ → α} {whole : γ → Prop} (reads : Reads valid encode view)
    (parts : ∀ record, whole record → valid (part record)) :
    Reads whole (fun record => encode (part record)) (fun record => view (part record)) :=
  fun _ _ _ _ good fine same => reads (parts _ good) (parts _ fine) same

theorem Reads.append {next : α → List S} {more : α → γ} (reads : Reads valid encode view)
    (continues : Reads valid next more) :
    Reads valid (fun record => encode record ++ next record)
      (fun record => (view record, more record)) := by
  intro first second rest other good fine same
  rw [List.append_assoc, List.append_assoc] at same
  obtain ⟨here, same⟩ := reads good fine same
  obtain ⟨there, same⟩ := continues good fine same
  exact ⟨Prod.ext here there, same⟩

/-- What follows from what is told. -/
theorem Reads.weaken {less : α → γ} (reads : Reads valid encode view)
    (follows : ∀ first second, valid first → valid second → view first = view second →
      less first = less second) : Reads valid encode less := by
  intro first second rest other good fine same
  obtain ⟨here, same⟩ := reads good fine same
  exact ⟨follows first second good fine here, same⟩

/-- Items of a known number are read one by one. -/
theorem reads_items {good : β → Prop} {item : β → List S} (reads : Reads good item id) :
    ∀ {items others : List β} {rest other : List S}, items.length = others.length →
      (∀ one ∈ items, good one) → (∀ one ∈ others, good one) →
      items.flatMap item ++ rest = others.flatMap item ++ other → items = others ∧ rest = other
  | [], [], _, _, _, _, _, same => ⟨rfl, same⟩
  | first :: items, second :: others, _, _, length, goods, fines, same => by
    simp only [List.flatMap_cons, List.append_assoc] at same
    obtain ⟨here, same⟩ := reads (goods first List.mem_cons_self)
      (fines second List.mem_cons_self) same
    obtain ⟨there, same⟩ := reads_items reads (Nat.succ.inj length)
      (fun one member => goods one (List.mem_cons_of_mem _ member))
      (fun one member => fines one (List.mem_cons_of_mem _ member)) same
    exact ⟨by rw [show first = second from here, there], same⟩

/-- A list is told by its length and its items. -/
theorem Reads.counted {good : β → Prop} {item : β → List S} {items : α → List β}
    (count : Reads valid encode fun record => (items record).length)
    (reads : Reads good item id) (goods : ∀ record, valid record → ∀ one ∈ items record, good one) :
    Reads valid (fun record => encode record ++ (items record).flatMap item) items := by
  intro first second rest other valid_ fine same
  rw [List.append_assoc, List.append_assoc] at same
  obtain ⟨length, same⟩ := count valid_ fine same
  exact reads_items reads length (goods first valid_) (goods second fine) same

end PrefixCode
