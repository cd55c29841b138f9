/-
Which messages a run hands over.

The outbox records the messages that the transport answered, and one on which the transport failed
leaves no trace there.  An installation that keeps copies answers every call as it always does, and
beside its world it keeps the messages that it has handed over, whatever became of them.

* `Service.notify_eq` — a notice is answered by the transport, to which its message is handed over;
* `Service.run_copying` — keeping copies changes nothing about a run;
* `Service.run_outbox` — the outbox after a run is what posting the copies makes of it;
* `Program.Leads.copying` — what a program that sends no notice leads to, it leads to with the copies
  as they are.
-/
import Enrollment.Proofs.PeerStoring
import Enrollment.Proofs.Transcript

namespace Enrollment

open Directory

variable {α β : Type} {sv : Service} {w w' : World} {n : Notice} {copies : List Mail.Message}

namespace Service

/-- The message of a notice, while the storage is open. -/
def message? (sv : Service) (w : World) (n : Notice) : Option Mail.Message :=
  if w.isOpen then
    (Notice.compose sv.site.settings sv.site.catalog
      (Policy.baseUrlOf sv.site.settings (w.tables.stored? .baseUrl)) n).toOption
  else none

theorem message?_of_open (sv : Service) (hopen : w.isOpen = true) (n : Notice) :
    ∃ m, sv.message? w n = some m ∧
      Notice.compose sv.site.settings sv.site.catalog
        (Policy.baseUrlOf sv.site.settings (w.tables.stored? .baseUrl)) n = .ok m := by
  obtain ⟨m, hm, -⟩ := Notice.compose_eq_ok sv.site.settings sv.site.catalog
    (Policy.baseUrlOf sv.site.settings (w.tables.stored? .baseUrl)) n
  refine ⟨m, ?_, hm⟩
  rw [message?, if_pos hopen, hm]
  rfl

/-- A notice is answered by the transport, if the storage is open. -/
theorem notify_eq (sv : Service) (w : World) (n : Notice) :
    sv.notify w n = match sv.message? w n with
      | some m => ((w.outbox.post m).1, { w with outbox := (w.outbox.post m).2 })
      | none => (.error .storageClosed, w) := by
  cases hopen : w.isOpen with
  | false => simp [notify, message?, World.ask, hopen]
  | true =>
    obtain ⟨m, hmessage, hm⟩ := sv.message?_of_open hopen n
    rw [Tables.stored?] at hm
    simp only [notify, World.ask, hopen, if_true, hm, hmessage]

/-- A notice with a message is answered by the transport, if the storage is open. -/
theorem notify_of_compose {m : Mail.Message}
    (hm : Notice.compose sv.site.settings sv.site.catalog
      (Policy.baseUrlOf sv.site.settings (w.tables.stored? .baseUrl)) n = .ok m) :
    sv.notify w n = if w.isOpen
      then ((w.outbox.post m).1, { w with outbox := (w.outbox.post m).2 })
      else (.error .storageClosed, w) := by
  rw [notify_eq, message?, hm]
  cases w.isOpen <;> rfl

/-- The same storage makes the same message. -/
theorem message?_of_same (h : World.SameStorage w w') : sv.message? w' n = sv.message? w n := by
  rw [message?, message?, h.isOpen, h.tables]

/-- The messages that are handed over in answer to a call. -/
def handed (sv : Service) (w : World) : Call → List Mail.Message
  | .notify n => (sv.message? w n).toList
  | _ => []

theorem handed_of_not {c : Call} (hc : c.isNotify = false) (w : World) : sv.handed w c = [] := by
  cases c with
  | notify n => cases hc
  | _ => rfl

/-- The answers of an installation that keeps a copy of every message it hands over. -/
def copying (sv : Service) : Handler (World × List Mail.Message) := fun c (w, copies) =>
  ((sv.answer c w).1, (sv.answer c w).2, copies ++ sv.handed w c)

/-- The messages that a run hands over, whatever becomes of them. -/
def mailed (sv : Service) (p : Program α) (w : World) : List Mail.Message :=
  (p.run sv.copying (w, [])).2.2

/-- **Keeping copies changes nothing** about a run. -/
theorem run_copying (sv : Service) (p : Program α) (w : World) (copies : List Mail.Message) :
    (p.run sv.copying (w, copies)).1 = (sv.run p w).1 ∧
      (p.run sv.copying (w, copies)).2.1 = (sv.run p w).2 := by
  induction p generalizing w copies with
  | done a => exact ⟨rfl, rfl⟩
  | fail e => exact ⟨rfl, rfl⟩
  | call c next ih => exact ih _ _ _

theorem answer_outbox_of_not {c : Call} (hc : c.isNotify = false) (w : World) :
    (sv.answer c w).2.outbox = w.outbox := by
  by_cases hsilent : c.Silent
  · refine (sv.answer_beside hsilent (fun n hn => ?_) w).outbox
    rw [hn] at hc
    cases hc
  · cases c with
    | persist u password actor => exact sv.persist_outbox w u password actor
    | commit =>
      change w.commit.2.outbox = w.outbox
      rw [World.commit, World.step]
      split <;> rfl
    | rollback => rfl
    | _ => exact absurd trivial hsilent

theorem answer_outbox (sv : Service) (c : Call) (w : World) :
    (sv.answer c w).2.outbox = (sv.handed w c).foldl (fun o m => (o.post m).2) w.outbox := by
  cases hc : c.isNotify with
  | false => rw [handed_of_not hc, answer_outbox_of_not hc, List.foldl_nil]
  | true =>
    cases c with
    | notify n =>
      change (sv.notify w n).2.outbox = (sv.message? w n).toList.foldl _ w.outbox
      rw [notify_eq]
      cases sv.message? w n <;> rfl
    | _ => cases hc

/-- **The outbox after a run** is what posting the copies makes of it. -/
theorem run_outbox (sv : Service) (p : Program α) (w : World) :
    (sv.run p w).2.outbox = (sv.mailed p w).foldl (fun o m => (o.post m).2) w.outbox := by
  have hkeeps := p.run_keeps (h := sv.copying)
    (I := fun s => s.1.outbox = s.2.foldl (fun o m => (o.post m).2) w.outbox)
    (fun c s hs => by
      change (sv.answer c s.1).2.outbox = (s.2 ++ sv.handed s.1 c).foldl _ w.outbox
      rw [answer_outbox, hs, List.foldl_append]) (w, []) rfl
  rwa [(sv.run_copying p w []).2] at hkeeps

end Service

namespace Program

/-! ### Programs that send no notice -/

/-- The notices are noted, and any call may fail. -/
def notices : Watch := ⟨Call.isNotify, fun _ => false⟩

variable {p : Program α}

theorem run_copying_of_noted (h : p.noted notices sv.answer w = []) (copies : List Mail.Message) :
    (p.run sv.copying (w, copies)).2.2 = copies := by
  induction p generalizing w copies with
  | done a => rfl
  | fail e => rfl
  | call c next ih =>
    -- The first call is not noted, so it is no notice, and no message is handed over for it.
    rw [noted, transcript, List.filter_eq_nil_iff] at h
    have hc : c.isNotify = false := by simpa [notices] using h _ List.mem_cons_self
    rw [run_call]
    change ((next _).run sv.copying ((sv.answer c w).2, copies ++ sv.handed w c)).2.2 = copies
    rw [Service.handed_of_not hc, List.append_nil]
    exact ih _ (List.filter_eq_nil_iff.mpr fun x hx => h x (List.mem_cons_of_mem _ hx)) copies

/-- What a program that sends no notice leads to, it leads to with the copies as they are. -/
theorem Leads.copying {R : Except Failure α → World → Prop} (hp : p.Leads sv.answer w R)
    {P : α → Prop} (hquiet : p.Quiet notices P) (copies : List Mail.Message) :
    p.Leads sv.copying (w, copies) fun r s => R r s.1 ∧ s.2 = copies := by
  obtain ⟨hresult, hworld⟩ := sv.run_copying p w copies
  refine ⟨?_, run_copying_of_noted ?_ copies⟩
  · rw [hresult, hworld]
    exact hp
  · exact (hquiet.noted (fun _ _ hcalm => nomatch hcalm) w).1

variable {Q : Except Failure β → World × List Mail.Message → Prop}

/-- A program that sends no notice comes first. -/
theorem Leads.copying_bind {R : Except Failure α → World → Prop} (hp : p.Leads sv.answer w R)
    {P : α → Prop} (hquiet : p.Quiet notices P) {k : α → Program β}
    (hok : ∀ a w', R (.ok a) w' → (k a).Leads sv.copying (w', copies) Q)
    (herror : ∀ e w', R (.error e) w' → Q (.error e) (w', copies)) :
    (p >>= k).Leads sv.copying (w, copies) Q := by
  refine (hp.copying hquiet copies).bind ?_ ?_
  · rintro a ⟨w', _⟩ ⟨ha, rfl⟩
    exact hok a w' ha
  · rintro e ⟨w', _⟩ ⟨he, rfl⟩
    exact herror e w' he

/-- A question comes first: what follows begins with its answer. -/
theorem Answers.copying_bind {q : Tables → Except Failure α} (hp : p.Answers sv q) {P : α → Prop}
    (hquiet : p.Quiet notices P) {k : α → Program β}
    (hok : ∀ a w', World.SameStorage w w' → q w.tables = .ok a →
      (k a).Leads sv.copying (w', copies) Q)
    (herror : ∀ e s, Q (.error e) s) : (p >>= k).Leads sv.copying (w, copies) Q :=
  (hp w).copying_bind hquiet
    (fun a w' ⟨hw', ha⟩ => hok a w' hw' (World.ask_eq_ok.mp ha.symm).2) fun e _ _ => herror e _

/-- The log takes every line. -/
theorem copying_log_bind (bound : Log.Context) (e : Log.Event) {k : Unit → Program β}
    (hk : ∀ w', World.SameStorage w w' → (k ()).Leads sv.copying (w', copies) Q) :
    (Program.log bound e >>= k).Leads sv.copying (w, copies) Q := by
  have hlog : (Program.log bound e).Leads sv.answer w fun r w' =>
      World.SameStorage w w' ∧ r = .ok () := leads_perform.mpr ⟨⟨rfl, rfl, rfl⟩, rfl⟩
  exact hlog.copying_bind (quiet_perform rfl) (fun _ w' ⟨hw', _⟩ => hk w' hw')
    fun _ _ ⟨_, he⟩ => nomatch he

/-- A call whose failure is a value comes first: a notice adds its message to the copies. -/
theorem copying_outcome_bind {c : Call} {k : Except Failure c.Reply → Program β}
    (hk : ∀ r, (sv.answer c w).1 = r →
      (k r).Leads sv.copying ((sv.answer c w).2, copies ++ sv.handed w c) Q) :
    ((perform c).outcome >>= k).Leads sv.copying (w, copies) Q := by
  rw [Leads, run_bind, run_outcome, run_perform]
  exact hk _ rfl

end Program
end Enrollment
