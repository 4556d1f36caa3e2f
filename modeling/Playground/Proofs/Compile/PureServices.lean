import Playground.Proofs.Compile.Composed

namespace Playground

variable {α β : Type}

/-- A session that comes to the same after every history. -/
def IgnoresHistory (x : Session α) : Prop := ∀ h h', (x.run h).1 = (x.run h').1

namespace IgnoresHistory

theorem bind {x : Session α} {f : α → Session β} (hx : IgnoresHistory x)
    (hf : ∀ a, IgnoresHistory (f a)) : IgnoresHistory (x >>= f) := by
  intro h h'
  rw [session_bind, session_bind, hx h h']
  exact hf _ _ _

theorem exists_run_eq {x : Session α} (hx : IgnoresHistory x) {h h' : List Call} {a : α}
    (hrun : x.run h = (a, h')) (h₁ : List Call) : ∃ h₂, x.run h₁ = (a, h₂) :=
  ⟨(x.run h₁).2, Prod.ext (by rw [hx h₁ h, hrun]) rfl⟩

end IgnoresHistory

/-- Services that answer by the request alone let every stage come to the same, whatever was asked
before it. -/
theorem Toolchain.IsPure.composes {t : Toolchain} (ht : t.IsPure) (id : String) :
    Composes t id @IgnoresHistory where
  pure _ _ _ := rfl
  bind := IgnoresHistory.bind
  ask _ h h' := ht h h' _

end Playground
