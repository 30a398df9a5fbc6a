import DoughAnalyzer.Controller.Dialogue

set_option autoImplicit false

namespace DoughAnalyzer.Dialogue

variable {α β : Type} {P P' : Request → Prop} {Q Q' : α → Prop}

def Ensures (P : Request → Prop) (Q : α → Prop) : Dialogue α → Prop
  | done a => Q a
  | ask q next => P q ∧ ∀ r, (next r).Ensures P Q

theorem ensures_bind {R : β → Prop} (d : Dialogue α) (f : α → Dialogue β) :
    (d >>= f).Ensures P R ↔ d.Ensures P fun a => (f a).Ensures P R := by
  change (d.bind f).Ensures P R ↔ _
  induction d with
  | done a => exact Iff.rfl
  | ask q next ih => exact and_congr_right fun _ => forall_congr' ih

theorem Ensures.mono {d : Dialogue α} (h : d.Ensures P Q) (hP : ∀ q, P q → P' q)
    (hQ : ∀ a, Q a → Q' a) : d.Ensures P' Q' := by
  induction d with
  | done a => exact hQ a h
  | ask q next ih => exact ⟨hP q h.1, fun r => ih r (h.2 r)⟩

theorem Ensures.bind {R : β → Prop} {d : Dialogue α} {f : α → Dialogue β} (h : d.Ensures P Q)
    (next : ∀ a, Q a → (f a).Ensures P R) : (d >>= f).Ensures P R :=
  (ensures_bind d f).2 (h.mono (fun _ hq => hq) next)

theorem Ensures.request {q : Request} {f : q.Reply → Dialogue β} {R : β → Prop} (h : P q)
    (next : ∀ r, (f r).Ensures P R) : (request q >>= f).Ensures P R :=
  ⟨h, next⟩

theorem Ensures.of_runs {d : Dialogue α} {exchanges : List Exchange} {a : α}
    (h : d.Ensures P Q) (run : Runs d exchanges a) : (∀ e ∈ exchanges, P e.request) ∧ Q a := by
  induction run with
  | done a => exact ⟨fun e he => absurd he List.not_mem_nil, h⟩
  | ask r rest ih =>
    obtain ⟨hrest, hQ⟩ := ih (h.2 r)
    refine ⟨fun e he => ?_, hQ⟩
    rcases List.mem_cons.1 he with rfl | he
    · exact h.1
    · exact hrest e he

end DoughAnalyzer.Dialogue
