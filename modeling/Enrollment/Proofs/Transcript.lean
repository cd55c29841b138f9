/-
Transcripts of runs: which calls a program makes, and what each of them is answered with.

A `Watch` says which calls are noted, and which calls never fail.  `Program.Tells v p Q` says that
`Q` holds of the noted calls of `p` and of what `p` comes to, whatever its calls are answered with;
it is shown along the program, as `Program.Leads` is.

* `Tells.noted` — what a program tells is so in its run against any handler;
* `Tells.bind`, `Tells.recover` — the notes of two programs in turn are those of the one and then
  those of the other;
* `Quiet` — programs that make no call that is noted, such as most policies;
* `Only` — programs all of whose calls are of a kind;
* `EndsWithin` — programs that make at most so many calls, `transcript_length_le`.
-/
import Enrollment.Proofs.Run
import Enrollment.Workflow.Linking

namespace Enrollment

variable {α β σ : Type} {h : Handler σ} {n m : Nat}

/-- A call, and what it was answered with. -/
structure Exchange where
  call : Call
  reply : Except Failure call.Reply

/-- Whether a call stores an account. -/
def Call.isPersist : Call → Bool
  | .persist _ _ _ => true
  | _ => false

/-- Whether a call sends an email. -/
def Call.isNotify : Call → Bool
  | .notify _ => true
  | _ => false

/-- Whether a call makes the writes of the session lasting. -/
def Call.isCommit : Call → Bool
  | .commit => true
  | _ => false

/-- The exchanges of a run, in order. -/
def Program.transcript (h : Handler σ) : Program α → σ → List Exchange
  | .done _, _ => []
  | .fail _, _ => []
  | .call c next, s => ⟨c, (h c s).1⟩ :: (next (h c s).1).transcript h (h c s).2

/-- An exchange that is not among the first ones is the next one, or comes after it. -/
theorem eq_or_later {front rest before after : List Exchange} {x y : Exchange}
    (hx : x ∉ front) (h : front ++ y :: rest = before ++ x :: after) :
    (before = front ∧ y = x ∧ rest = after) ∨
      ∃ later, before = front ++ y :: later ∧ rest = later ++ x :: after := by
  induction front generalizing before with
  | nil =>
    rcases List.cons_eq_append_iff.mp h with ⟨rfl, hrest⟩ | ⟨later, rfl, hrest⟩
    · obtain ⟨rfl, rfl⟩ := List.cons.inj hrest
      exact .inl ⟨rfl, rfl, rfl⟩
    · exact .inr ⟨later, rfl, hrest⟩
  | cons z front ih =>
    rcases List.cons_eq_append_iff.mp h with ⟨rfl, hrest⟩ | ⟨before, rfl, hrest⟩
    · exact absurd (List.cons.inj hrest).1 fun h => hx (h ▸ List.mem_cons_self)
    · rcases ih (fun h => hx (List.mem_cons_of_mem z h)) hrest with
        ⟨rfl, hy, hafter⟩ | ⟨later, rfl, hlater⟩
      · exact .inl ⟨rfl, hy, hafter⟩
      · exact .inr ⟨later, rfl, hlater⟩

namespace Program

/-- The exchanges of a program, and of the handling of its failure. -/
theorem transcript_recover (p : Program α) (handle : Failure → Program α) (s : σ) :
    (p.recover handle).transcript h s = p.transcript h s ++
      match p.run h s with
      | (.ok _, _) => []
      | (.error e, s') => (handle e).transcript h s' := by
  induction p generalizing s with
  | done a => rfl
  | fail e => rfl
  | call c next ih =>
    rw [Program.recover, transcript, transcript, ih, run_call, List.cons_append]

/-- What a call is answered with in a run is an answer of the handler. -/
theorem reply_of_mem_transcript {p : Program α} {s : σ} {x : Exchange}
    (hx : x ∈ p.transcript h s) : ∃ t, x.reply = (h x.call t).1 := by
  induction p generalizing s with
  | done a => cases hx
  | fail e => cases hx
  | call c next ih =>
    rcases List.mem_cons.mp hx with rfl | hx
    · exact ⟨s, rfl⟩
    · exact ih _ hx

end Program

/-! ### Watching a run -/

/-- How a run is watched. -/
structure Watch where
  /-- The calls that are noted. -/
  notes : Call → Bool
  /-- The calls that never fail. -/
  calm : Call → Bool

namespace Watch

variable (v : Watch)

/-- A call may be answered so. -/
def Allows (c : Call) (r : Except Failure c.Reply) : Prop := v.calm c = true → ∃ a, r = .ok a

/-- A handler all of whose answers are allowed. -/
def Admits (h : Handler σ) : Prop := ∀ c s, v.Allows c (h c s).1

/-- An exchange comes before what has been noted, if it is noted. -/
def note (x : Exchange) (rest : List Exchange) : List Exchange :=
  if v.notes x.call then x :: rest else rest

theorem note_append (x : Exchange) (log rest : List Exchange) :
    v.note x log ++ rest = v.note x (log ++ rest) := by
  rw [note, note]
  split <;> rfl

theorem note_of_not {x : Exchange} (hx : v.notes x.call = false) (rest : List Exchange) :
    v.note x rest = rest := by
  rw [note, hx]
  rfl

end Watch

/-- The noted exchanges of a run. -/
def Program.noted (v : Watch) (h : Handler σ) (p : Program α) (s : σ) : List Exchange :=
  (p.transcript h s).filter (v.notes ·.call)

namespace Program

variable {v : Watch} {p : Program α}

theorem mem_noted {s : σ} {x : Exchange} (hx : v.notes x.call = true) :
    x ∈ p.noted v h s ↔ x ∈ p.transcript h s := by
  rw [noted, List.mem_filter, and_iff_left hx]

/-- Whatever its calls are answered with, the notes on the program and what it comes to are as `Q`
says. -/
def Tells (v : Watch) : Program α → (List Exchange → Except Failure α → Prop) → Prop
  | .done a, Q => Q [] (.ok a)
  | .fail e, Q => Q [] (.error e)
  | .call c next, Q => ∀ r, v.Allows c r → (next r).Tells v fun log o => Q (v.note ⟨c, r⟩ log) o

theorem Tells.mono {Q Q' : List Exchange → Except Failure α → Prop} (hp : p.Tells v Q)
    (hQ : ∀ log r, Q log r → Q' log r) : p.Tells v Q' := by
  induction p generalizing Q Q' with
  | done a => exact hQ _ _ hp
  | fail e => exact hQ _ _ hp
  | call c next ih => exact fun r hr => ih r (hp r hr) fun log o ho => hQ _ _ ho

/-- What a program tells is so in its run against any handler whose answers are allowed. -/
theorem Tells.noted {Q : List Exchange → Except Failure α → Prop} (hp : p.Tells v Q)
    (hh : v.Admits h) (s : σ) : Q (p.noted v h s) (p.run h s).1 := by
  induction p generalizing s Q with
  | done a => exact hp
  | fail e => exact hp
  | call c next ih =>
    have hrest := ih (h c s).1 (hp _ (hh c s)) (h c s).2
    rw [run_call]
    rw [Watch.note] at hrest
    rw [Program.noted, transcript, List.filter_cons]
    exact hrest

/-- The notes on the first program come before those on the second; the failure of the first is the
end. -/
theorem Tells.bind {k : α → Program β} {R : List Exchange → Except Failure α → Prop}
    {Q : List Exchange → Except Failure β → Prop} (hp : p.Tells v R)
    (hok : ∀ log a, R log (.ok a) → (k a).Tells v fun rest r => Q (log ++ rest) r)
    (herror : ∀ log e, R log (.error e) → Q log (.error e)) : (p >>= k).Tells v Q := by
  change (p.bind k).Tells v Q
  -- The note on the first call moves from the program into what is said of the rest.
  induction p generalizing R Q with
  | done a => exact hok [] a hp
  | fail e => exact herror [] e hp
  | call c next ih =>
    refine fun r hr => ih r (hp r hr) (fun log a ha => ?_) fun log e he => herror _ e he
    refine (hok _ a ha).mono fun rest o ho => ?_
    rw [Watch.note_append] at ho
    exact ho

theorem Tells.recover {handle : Failure → Program α}
    {R Q : List Exchange → Except Failure α → Prop} (hp : p.Tells v R)
    (hok : ∀ log a, R log (.ok a) → Q log (.ok a))
    (herror : ∀ log e, R log (.error e) → (handle e).Tells v fun rest r => Q (log ++ rest) r) :
    (p.recover handle).Tells v Q := by
  induction p generalizing R Q with
  | done a => exact hok [] a hp
  | fail e => exact herror [] e hp
  | call c next ih =>
    refine fun r hr => ih r (hp r hr) (fun log a ha => hok _ a ha) fun log e he => ?_
    refine (herror _ e he).mono fun rest o ho => ?_
    rw [Watch.note_append] at ho
    exact ho

/-! ### Single calls -/

/-- A call comes first: what follows begins with its answer. -/
theorem tells_perform_bind {c : Call} {k : c.Reply → Program β}
    {Q : List Exchange → Except Failure β → Prop}
    (hok : ∀ a, (k a).Tells v fun rest r => Q (v.note ⟨c, .ok a⟩ rest) r)
    (herror : ∀ e, v.Allows c (.error e) → Q (v.note ⟨c, .error e⟩ []) (.error e)) :
    (perform c >>= k).Tells v Q := by
  rintro (e | a) hr
  · exact herror e hr
  · exact hok a

/-- A call whose failure is a value comes first. -/
theorem tells_outcome_bind {c : Call} {k : Except Failure c.Reply → Program β}
    {Q : List Exchange → Except Failure β → Prop}
    (hk : ∀ r, v.Allows c r → (k r).Tells v fun rest o => Q (v.note ⟨c, r⟩ rest) o) :
    ((perform c).outcome >>= k).Tells v Q := by
  rintro (e | a) hr
  · exact hk _ hr
  · exact hk _ hr

/-- A line in the log is not noted, and what follows goes on. -/
theorem tells_log_bind (hnote : ∀ e, v.notes (.log e) = false)
    (hcalm : ∀ e, v.calm (.log e) = true) (bound : Log.Context) (e : Log.Event)
    {k : Unit → Program β} {Q : List Exchange → Except Failure β → Prop}
    (hk : (k ()).Tells v Q) : (Program.log bound e >>= k).Tells v Q := by
  refine tells_perform_bind (fun _ => hk.mono fun rest r hr => ?_) fun e' he' => ?_
  · rwa [v.note_of_not (hnote _)]
  · obtain ⟨a, ha⟩ := he' (hcalm _)
    cases ha

/-! ### Programs that make no call that is noted -/

/-- The program makes no call that is noted; if it succeeds, `P` holds of what it comes to. -/
def Quiet (v : Watch) (p : Program α) (P : α → Prop) : Prop :=
  p.Tells v fun log r => log = [] ∧ ∀ a, r = .ok a → P a

/-- A quiet program comes first. -/
theorem Quiet.tells_bind {P : α → Prop} {k : α → Program β}
    {Q : List Exchange → Except Failure β → Prop} (hp : p.Quiet v P)
    (hok : ∀ a, P a → (k a).Tells v Q) (herror : ∀ e, Q [] (.error e)) :
    (p >>= k).Tells v Q := by
  refine hp.bind ?_ ?_
  · rintro log a ⟨rfl, ha⟩
    exact hok a (ha a rfl)
  · rintro log e ⟨rfl, -⟩
    exact herror e

theorem Quiet.bind {P : α → Prop} {k : α → Program β} {P' : β → Prop} (hp : p.Quiet v P)
    (hk : ∀ a, P a → (k a).Quiet v P') : (p >>= k).Quiet v P' :=
  hp.tells_bind hk fun _ => ⟨rfl, fun _ h => nomatch h⟩

theorem Quiet.trivial {P : α → Prop} (hp : p.Quiet v P) : p.Quiet v fun _ => True :=
  hp.mono fun _ _ ⟨hlog, _⟩ => ⟨hlog, fun _ _ => True.intro⟩

theorem quiet_pure {P : α → Prop} {a : α} (ha : P a) : (pure a : Program α).Quiet v P :=
  ⟨rfl, fun _ h => by cases h; exact ha⟩

theorem quiet_ofExcept (r : Except Failure α) : (ofExcept r).Quiet v fun a => r = .ok a := by
  cases r with
  | ok a => exact quiet_pure rfl
  | error e => exact ⟨rfl, fun _ h => nomatch h⟩

theorem quiet_perform {c : Call} (hnote : v.notes c = false) :
    (perform c).Quiet v fun _ => True := by
  rintro (e | a) -
  · exact ⟨v.note_of_not hnote _, fun _ _ => True.intro⟩
  · exact ⟨v.note_of_not hnote _, fun _ _ => True.intro⟩

/-- A block is opened without a note. -/
theorem tells_within (hnote : v.notes .freshRun = false) (outer : Log.Context) (workflow : String)
    (fields : Log.Context) {body : Log.Context → Program α}
    {Q : List Exchange → Except Failure α → Prop} (hbody : ∀ bound, (body bound).Tells v Q)
    (herror : ∀ e, Q [] (.error e)) : (within outer workflow fields body).Tells v Q := by
  rw [within]
  split
  · exact hbody _
  · exact (quiet_perform hnote).tells_bind (fun _ _ => hbody _) herror

/-- A failure that is passed on is still that of a collaborator's, if it was. -/
theorem wrapFailure_tells (hrollback : v.notes .rollback = false)
    (hlog : ∀ e, v.notes (.log e) = false) (bound : Log.Context) (event purpose : String)
    (e : Failure) :
    (Registration.wrapFailure bound event purpose e).Tells v fun log r =>
      log = [] ∧ ∃ e', r = .error e' ∧ (e.isCollaborator = true → e' = e) := by
  rw [Registration.wrapFailure]
  split
  · exact ⟨rfl, e, rfl, fun _ => rfl⟩
  · rename_i hcollaborator
    refine (quiet_perform hrollback).tells_bind (fun _ _ => ?_)
      fun e' => ⟨rfl, e', rfl, fun h => absurd h hcollaborator⟩
    refine (quiet_perform (hlog _)).tells_bind (fun _ _ => ?_)
      fun e' => ⟨rfl, e', rfl, fun h => absurd h hcollaborator⟩
    exact ⟨rfl, _, rfl, fun h => absurd h hcollaborator⟩

/-! ### The policies -/

section Policies

variable {key : String} (hlog : ∀ e, v.notes (.log e) = false)
include hlog

theorem quiet_settle (bound : Log.Context) (key : String) (d : Policy.Verdict α) :
    (d.settle bound key).Quiet v fun a => a = d.value := by
  rw [Policy.Verdict.settle]
  cases d.warning with
  | none => exact quiet_pure rfl
  | some w => exact (quiet_perform (hlog _)).bind fun _ _ => quiet_pure rfl

theorem quiet_readFlag (hkey : v.notes (.configValue key) = false) (bound : Log.Context)
    (fallback : Bool) : (Policy.readFlag bound key fallback).Quiet v fun _ => True :=
  (quiet_perform hkey).bind fun _ _ => (quiet_settle hlog bound key _).trivial

theorem quiet_readWhole (hkey : v.notes (.configValue key) = false) (bound : Log.Context)
    (fallback : Int) (minimum : Option Int) :
    (Policy.readWhole bound key fallback minimum).Quiet v
      fun n => ∃ stored, n = (Policy.whole fallback minimum stored).value :=
  (quiet_perform hkey).bind fun stored _ =>
    (quiet_settle hlog bound key _).mono fun _ _ ⟨hlog, hn⟩ => ⟨hlog, fun n h => ⟨stored, hn n h⟩⟩

omit hlog in
theorem quiet_readText (hkey : v.notes (.configValue key) = false) (fallback : Option String) :
    (Policy.readText key fallback).Quiet v fun _ => True :=
  (quiet_perform hkey).bind fun _ _ => quiet_pure True.intro

theorem quiet_resolver (hkeys : ∀ key, v.notes (.configValue key) = false)
    (site : Installation) (bound : Log.Context) :
    (site.resolver bound).Quiet v fun _ => True := by
  refine (quiet_readWhole hlog (hkeys _) bound _ none).bind fun language _ => ?_
  have htimezone : (Policy.defaultTimezone site.settings).Quiet v fun _ => True :=
    (quiet_readText (hkeys _) _).bind fun _ _ => quiet_pure True.intro
  exact htimezone.bind fun _ _ => quiet_pure True.intro

omit hlog in
theorem quiet_defaultGroup (hkeys : ∀ key, v.notes (.configValue key) = false)
    (hgroup : ∀ id, v.notes (.group id) = false) (site : Installation) :
    site.defaultGroup.Quiet v fun _ => True := by
  have hid : (Policy.defaultGroup site.settings).Quiet v fun _ => True :=
    (quiet_readText (hkeys _) _).bind fun _ _ => quiet_pure True.intro
  refine hid.bind fun id _ => ?_
  cases id with
  | none => exact quiet_pure True.intro
  | some id =>
    refine (quiet_perform (hgroup id)).bind fun found _ => ?_
    cases found with
    | none => exact ⟨rfl, fun _ h => nomatch h⟩
    | some g => exact quiet_pure True.intro

omit hlog in
/-- An account that was found is kept as it is; for a new one the default group is looked up. -/
theorem quiet_baseDraft (hkeys : ∀ key, v.notes (.configValue key) = false)
    (hgroup : ∀ id, v.notes (.group id) = false) (site : Installation) (a : Assertion)
    (provider : String) (resolver : Locale.Resolver) (found : Option User) :
    (Linking.baseDraft site a provider resolver found).Quiet v
      fun base => ∀ u, found = some u → base = u.toDraft := by
  cases found with
  | some u => exact quiet_pure fun u' hu => by cases hu; rfl
  | none =>
    refine (quiet_defaultGroup hkeys hgroup site).bind fun group _ => ?_
    exact quiet_pure fun u hu => nomatch hu

theorem quiet_confirmationRequired
    (hurl : v.notes (.configValue Policy.Key.baseUrl.name) = false)
    (hverification : v.notes (.configValue Policy.Key.emailVerification.name) = false)
    (site : Installation) (bound : Log.Context) :
    (Registration.confirmationRequired site bound).Quiet v fun _ => True := by
  have hread : (Policy.baseUrl site.settings).Quiet v fun _ => True :=
    (quiet_perform hurl).bind fun _ _ => quiet_pure True.intro
  refine hread.bind fun url _ => ?_
  by_cases h : url = ""
  · rw [if_pos h]
    exact quiet_pure True.intro
  · rw [if_neg h]
    exact quiet_readFlag hlog hverification _ _

end Policies

/-! ### Programs all of whose calls are of a kind -/

section Only

variable {P : Call → Prop}

/-- Whatever its calls are answered with, `P` holds of every call that the program makes. -/
def Only (P : Call → Prop) : Program α → Prop
  | .done _ => True
  | .fail _ => True
  | .call c next => P c ∧ ∀ r, (next r).Only P

theorem Only.mem_transcript (hp : p.Only P) (s : σ) : ∀ x ∈ p.transcript h s, P x.call := by
  induction p generalizing s with
  | done a => simp [transcript]
  | fail e => simp [transcript]
  | call c next ih =>
    obtain ⟨hc, hnext⟩ := hp
    intro x hx
    rcases List.mem_cons.mp hx with rfl | hx
    · exact hc
    · exact ih _ (hnext _) _ x hx

theorem Only.bind {k : α → Program β} (hp : p.Only P) (hk : ∀ a, (k a).Only P) :
    (p >>= k).Only P := by
  change (p.bind k).Only P
  induction p with
  | done a => exact hk a
  | fail e => trivial
  | call c next ih => exact ⟨hp.1, fun r => ih r (hp.2 r)⟩

theorem Only.recover {handle : Failure → Program α} (hp : p.Only P)
    (hh : ∀ e, (handle e).Only P) : (p.recover handle).Only P := by
  induction p with
  | done a => trivial
  | fail e => exact hh e
  | call c next ih => exact ⟨hp.1, fun r => ih r (hp.2 r)⟩

theorem Only.outcome (hp : p.Only P) : p.outcome.Only P := by
  induction p with
  | done a => trivial
  | fail e => trivial
  | call c next ih => exact ⟨hp.1, fun r => ih r (hp.2 r)⟩

theorem only_perform {c : Call} (hc : P c) : (perform c).Only P := by
  refine ⟨hc, ?_⟩
  rintro (e | a)
  · trivial
  · trivial

theorem only_pure (a : α) : (pure a : Program α).Only P := trivial

/-- A policy asks for a text, and perhaps warns of it. -/
theorem only_settle (hlog : ∀ e, P (.log e)) (bound : Log.Context) (key : String)
    (v : Policy.Verdict α) : (v.settle bound key).Only P := by
  rw [Policy.Verdict.settle]
  cases v.warning with
  | none => exact only_pure _
  | some w => exact (only_perform (hlog _)).bind fun _ => only_pure _

end Only

/-! ### How many calls a program makes -/

/-- Whatever its calls are answered with, the program makes at most so many of them. -/
def EndsWithin : Nat → Program α → Prop
  | _, .done _ => True
  | _, .fail _ => True
  | 0, .call _ _ => False
  | n + 1, .call _ next => ∀ r, EndsWithin n (next r)

theorem EndsWithin.mono (hp : p.EndsWithin n) (hn : n ≤ m) : p.EndsWithin m := by
  induction p generalizing n m with
  | done a => simp only [EndsWithin]
  | fail e => simp only [EndsWithin]
  | call c next ih =>
    cases n with
    | zero => exact hp.elim
    | succ n =>
      cases m with
      | zero => omega
      | succ m => exact fun r => ih r (hp r) (by omega)

/-- A run of a program that makes at most `n` calls has at most `n` exchanges. -/
theorem EndsWithin.transcript_length_le (hp : p.EndsWithin n) (h : Handler σ) (s : σ) :
    (p.transcript h s).length ≤ n := by
  induction p generalizing n s with
  | done a => exact Nat.zero_le n
  | fail e => exact Nat.zero_le n
  | call c next ih =>
    cases n with
    | zero => exact hp.elim
    | succ n =>
      rw [transcript, List.length_cons]
      exact Nat.succ_le_succ (ih _ (hp _) _)

theorem EndsWithin.bind {k : α → Program β} (hp : p.EndsWithin n)
    (hk : ∀ a, (k a).EndsWithin m) : (p >>= k).EndsWithin (n + m) := by
  change (p.bind k).EndsWithin (n + m)
  induction p generalizing n with
  | done a => exact (hk a).mono (Nat.le_add_left m n)
  | fail e => simp only [Program.bind, EndsWithin]
  | call c next ih =>
    cases n with
    | zero => exact hp.elim
    | succ n =>
      rw [Nat.succ_add]
      exact fun r => ih r (hp r)

theorem EndsWithin.recover {handle : Failure → Program α} (hp : p.EndsWithin n)
    (hh : ∀ e, (handle e).EndsWithin m) : (p.recover handle).EndsWithin (n + m) := by
  induction p generalizing n with
  | done a => simp only [Program.recover, EndsWithin]
  | fail e => exact (hh e).mono (Nat.le_add_left m n)
  | call c next ih =>
    cases n with
    | zero => exact hp.elim
    | succ n =>
      rw [Nat.succ_add]
      exact fun r => ih r (hp r)

theorem EndsWithin.outcome (hp : p.EndsWithin n) : p.outcome.EndsWithin n := by
  induction p generalizing n with
  | done a => simp only [Program.outcome, EndsWithin]
  | fail e => simp only [Program.outcome, EndsWithin]
  | call c next ih =>
    cases n with
    | zero => exact hp.elim
    | succ n => exact fun r => ih r (hp r)

theorem pure_endsWithin (a : α) : (pure a : Program α).EndsWithin 0 := by
  change (Program.done a).EndsWithin 0
  simp only [EndsWithin]

theorem fail_endsWithin (e : Failure) : (Program.fail e : Program α).EndsWithin 0 := by
  simp only [EndsWithin]

theorem ofExcept_endsWithin (r : Except Failure α) : (ofExcept r).EndsWithin 0 := by
  cases r with
  | ok a => exact pure_endsWithin a
  | error e => exact fail_endsWithin e

theorem perform_endsWithin (c : Call) : (perform c).EndsWithin 1 := by
  rintro (e | a)
  · exact fail_endsWithin e
  · exact pure_endsWithin a

theorem EndsWithin.ite {c : Prop} [Decidable c] {q : Program α} (hp : p.EndsWithin n)
    (hq : q.EndsWithin m) : (if c then p else q).EndsWithin (max n m) := by
  split
  · exact hp.mono (Nat.le_max_left n m)
  · exact hq.mono (Nat.le_max_right n m)

theorem within_endsWithin (outer : Log.Context) (workflow : String) (fields : Log.Context)
    {body : Log.Context → Program α} (hbody : ∀ bound, (body bound).EndsWithin n) :
    (within outer workflow fields body).EndsWithin (1 + n) := by
  rw [within]
  split
  · exact (hbody _).mono (Nat.le_add_left n 1)
  · exact (perform_endsWithin _).bind fun _ => hbody _

theorem wrapFailure_endsWithin (bound : Log.Context) (event purpose : String) (e : Failure) :
    (Registration.wrapFailure bound event purpose e).EndsWithin 2 := by
  rw [Registration.wrapFailure]
  split
  · exact (fail_endsWithin e).mono (by decide)
  · exact (perform_endsWithin _).bind fun _ => (perform_endsWithin _).bind fun _ =>
      fail_endsWithin _

/-- A policy is one question, and perhaps one warning. -/
theorem readWhole_endsWithin (bound : Log.Context) (key : String) (fallback : Int)
    (minimum : Option Int) : (Policy.readWhole bound key fallback minimum).EndsWithin 2 := by
  refine EndsWithin.bind (n := 1) (m := 1) (perform_endsWithin _) fun stored => ?_
  rw [Policy.Verdict.settle]
  cases (Policy.whole fallback minimum stored).warning with
  | none => exact (pure_endsWithin _).mono (by decide)
  | some w => exact (perform_endsWithin _).bind fun _ => pure_endsWithin _

theorem readText_endsWithin (key : String) (fallback : Option String) :
    (Policy.readText key fallback).EndsWithin 1 :=
  (perform_endsWithin _).bind fun _ => pure_endsWithin _

theorem resolver_endsWithin (site : Installation) (bound : Log.Context) :
    (site.resolver bound).EndsWithin 3 := by
  refine EndsWithin.bind (n := 2) (m := 1) (readWhole_endsWithin bound _ _ none) fun _ => ?_
  exact ((readText_endsWithin _ _).bind fun _ => pure_endsWithin _).bind fun _ => pure_endsWithin _

theorem defaultGroup_endsWithin (site : Installation) : site.defaultGroup.EndsWithin 2 := by
  have hid : (Policy.defaultGroup site.settings).EndsWithin 1 :=
    (readText_endsWithin _ _).bind fun _ => pure_endsWithin _
  refine EndsWithin.bind (n := 1) (m := 1) hid fun id => ?_
  cases id with
  | none => exact (pure_endsWithin _).mono (by decide)
  | some id =>
    refine EndsWithin.bind (n := 1) (m := 0) (perform_endsWithin _) fun found => ?_
    cases found with
    | none => exact fail_endsWithin _
    | some g => exact pure_endsWithin _

end Program
end Enrollment
