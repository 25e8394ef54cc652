/-
Rows carried over restarts.

A process keeps a value in memory, saves it as a row now and then, and resumes from
the row when it starts.  If the value only grows and never starts below the row, the
row only grows.
-/
import Rtpigate.Lib.Machine

namespace Rtpigate
namespace Lib

/-- A row that may be absent, and the value of a process that may not run. -/
structure Carried (R : Type*) where
  disk : Option R
  memory : Option R

variable {R σ ι ω : Type*} [Preorder R]

/-- A row is not replaced by a smaller one. -/
def RowLe (old new : Option R) : Prop := ∀ r, old = some r → ∃ r', new = some r' ∧ r ≤ r'

theorem RowLe.refl (row : Option R) : RowLe row row := fun r hr => ⟨r, hr, le_rfl⟩

namespace Carried

/-- The value is not below the row. -/
def Covers (c : Carried R) : Prop := ∀ m r, c.memory = some m → c.disk = some r → r ≤ m

/-- A step of the process: it stays as it is, stops, starts from the row, or goes on to
a larger value, which it may save. -/
inductive Step (c c' : Carried R) : Prop
  | idle (h : c' = c)
  | stop (hdisk : c'.disk = c.disk) (hmemory : c'.memory = none)
  | start (m : R) (hdisk : c'.disk = c.disk) (hmemory : c'.memory = some m)
      (hrow : ∀ r, c.disk = some r → r ≤ m)
  | work (m m' : R) (hold : c.memory = some m) (hgrow : m ≤ m')
      (hdisk : c'.disk = c.disk ∨ c'.disk = some m')
      (hmemory : c'.memory = some m' ∨ c'.memory = none)

variable {c c' : Carried R}

theorem Step.covers (h : Step c c') (hc : c.Covers) : c'.Covers := by
  intro x r hx hr
  cases h with
  | idle h =>
    subst h
    exact hc x r hx hr
  | stop _ hmemory => cases hmemory.symm.trans hx
  | start m hdisk hmemory hrow =>
    cases hmemory.symm.trans hx
    exact hrow r (hdisk ▸ hr)
  | work m m' hold hgrow hdisk hmemory =>
    rcases hmemory with hmemory | hmemory
    · cases hmemory.symm.trans hx
      rcases hdisk with hdisk | hdisk
      · exact (hc m r hold (hdisk ▸ hr)).trans hgrow
      · cases hdisk.symm.trans hr
        exact le_rfl
    · cases hmemory.symm.trans hx

theorem Step.rowLe (h : Step c c') (hc : c.Covers) : RowLe c.disk c'.disk := by
  have hsame : c'.disk = c.disk → RowLe c.disk c'.disk := fun h => h ▸ RowLe.refl _
  cases h with
  | idle h => exact hsame (by rw [h])
  | stop hdisk _ => exact hsame hdisk
  | start _ hdisk _ _ => exact hsame hdisk
  | work m m' hold hgrow hdisk _ =>
    rcases hdisk with hdisk | hdisk
    · exact hsame hdisk
    · exact fun r hr => ⟨m', hdisk, (hc m r hold hr).trans hgrow⟩

/-- In a run of such steps the row never shrinks.  `Inv` is what else the steps rely
on. -/
theorem run_rowLe {step : σ → ι → σ × List ω} {Ok : σ → ι → Prop} {s₀ : σ}
    (view : σ → Carried R) (Inv : σ → Prop) (hcovers : (view s₀).Covers) (hinv : Inv s₀)
    (next : ∀ s i, Ok s i → Inv s → Step (view s) (view (step s i).1) ∧ Inv (step s i).1)
    {is : List ι} (hok : ∀ js i, js ++ [i] <+: is → Ok (run step s₀ js).1 i) :
    ∀ js i, js ++ [i] <+: is →
      RowLe (view (run step s₀ js).1).disk (view (run step s₀ (js ++ [i])).1).disk := by
  intro js i hpre
  have hjs := run_guarded (P := fun s => (view s).Covers ∧ Inv s) ⟨hcovers, hinv⟩
    (fun s i hi hs => ⟨(next s i hi hs.2).1.covers hs.1, (next s i hi hs.2).2⟩) js
    fun ks k hk => hok ks k ((hk.trans (List.prefix_append js [i])).trans hpre)
  rw [run_concat]
  exact (next _ i (hok js i hpre) hjs.2).1.rowLe hjs.1

end Carried

end Lib
end Rtpigate
