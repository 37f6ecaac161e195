/-!
# Runs

A system is a relation that says which steps its states can take, each step with an
event that an onlooker sees. A run takes one step after another from a start; what was
seen of it is its log, the earliest event first.

* `Run.invariant`: what holds at the start and is preserved by every step holds at the
  end of every run;
* `Run.split`: every event of a log was seen in a step between two runs;
* `Run.append`, `Run.cons`: runs are put together.
-/

namespace TemplateCatalog

variable {σ ε : Type}

/-- A run from `start` with the log of its events. -/
inductive Run (Step : σ → ε → σ → Prop) (start : σ) : List ε → σ → Prop
  | nil : Run Step start [] start
  | step {log : List ε} {s s' : σ} {e : ε} :
    Run Step start log s → Step s e s' → Run Step start (log ++ [e]) s'

namespace Run

variable {Step : σ → ε → σ → Prop} {start s : σ} {log : List ε}

/-- What holds at the start and is preserved by every step holds after every run. -/
theorem invariant {P : List ε → σ → Prop} (hstart : P [] start)
    (hstep : ∀ {log : List ε} {s s' : σ} {e : ε}, P log s → Step s e s' → P (log ++ [e]) s')
    (h : Run Step start log s) : P log s := by
  induction h with
  | nil => exact hstart
  | step _ hs ih => exact hstep ih hs

/-- A run goes on with a run from where it has come to. -/
theorem append {log' : List ε} {s' : σ} (h : Run Step start log s) (h' : Run Step s log' s') :
    Run Step start (log ++ log') s' := by
  induction h' with
  | nil => rwa [List.append_nil]
  | step _ hs ih => exact (List.append_assoc ..) ▸ ih.step hs

/-- A step and a run from where it leads are a run. -/
theorem cons {e : ε} {s' : σ} (hs : Step start e s) (h : Run Step s log s') :
    Run Step start (e :: log) s' :=
  (Run.nil.step hs).append h

/-- After any event of a run, the rest of the run goes on from where the event led. -/
theorem split_through {before after : List ε} {e : ε} (h : Run Step start log s)
    (hlog : log = before ++ e :: after) :
    ∃ s₁ s₂, Run Step start before s₁ ∧ Step s₁ e s₂ ∧ Run Step s₂ after s := by
  induction h generalizing after with
  | nil => simp at hlog
  | @step log s s' e' hrun hs ih =>
    rcases List.eq_nil_or_concat after with rfl | ⟨after, last, rfl⟩
    · obtain ⟨rfl, he⟩ := List.append_inj' hlog rfl
      exact ⟨s, s', hrun, List.singleton_inj.1 he ▸ hs, .nil⟩
    · have hlog : log ++ [e'] = (before ++ e :: after) ++ [last] := by simpa using hlog
      obtain ⟨hlog, he⟩ := List.append_inj' hlog rfl
      obtain ⟨s₁, s₂, hbefore, hevent, hafter⟩ := ih hlog
      refine ⟨s₁, s₂, hbefore, hevent, ?_⟩
      rw [List.concat_eq_append, ← List.singleton_inj.1 he]
      exact hafter.step hs

/-- Every event of a log was seen in a step that followed on a run with the log before
    it. -/
theorem split {before after : List ε} {e : ε} (h : Run Step start log s)
    (hlog : log = before ++ e :: after) :
    ∃ s₁ s₂, Run Step start before s₁ ∧ Step s₁ e s₂ := by
  obtain ⟨s₁, s₂, hbefore, hevent, -⟩ := h.split_through hlog
  exact ⟨s₁, s₂, hbefore, hevent⟩

end Run

end TemplateCatalog
