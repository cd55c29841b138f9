/-
Storing accounts in two installations side by side.

The installations are set up alike, and what they draw may differ: ids, tokens, hashes and times.
Peers store twins as twins, commit them, and write to them with one result.

* `Service.Alike` — drawing and hashing passwords succeeds or fails alike;
* `World.Peers.persisted` — how storing twins ends in peers;
* `together_commit_bind`, `together_sendNotice`, `together_within`, … — what comes before and after.
-/
import Enrollment.Proofs.Notices
import Enrollment.Proofs.Peers

namespace Enrollment

open Directory

variable {α β γ δ : Type} {sv sv₁ sv₂ : Service} {v : Tables.View} {n n₁ n₂ : Nat}
  {t₁ t₂ : Tables} {w w₁ w₂ : World}

/-! ### Installations that differ in what they draw -/

/-- Two passwords fare alike: both are empty or neither is, and they are hashed or fail to be. -/
structure Service.Fare (sv₁ sv₂ : Service) (p q : String) : Prop where
  empty : p = "" ↔ q = ""
  hashed : Matched (fun _ _ => True) (sv₁.around.hash p) (sv₂.around.hash q)

/-- Two installations of one kind: they are set up alike, and drawing and hashing passwords succeeds
or fails alike in both.  What they draw may differ. -/
structure Service.Alike (sv₁ sv₂ : Service) : Prop where
  site : sv₂.site = sv₁.site
  hash : ∀ p, sv₁.Fare sv₂ p p
  randomPassword : ∀ length,
    Matched (sv₁.Fare sv₂) (sv₁.around.randomPassword length) (sv₂.around.randomPassword length)
  plain₁ : sv₁.around.PlainHasher
  plain₂ : sv₂.around.PlainHasher

/-- What an installation draws for an account: ids from the n-th on, hashes, the present time, and
the tokens that are said. -/
def Service.sources (sv : Service) (n : Nat) (token : String → Prop) : Sources where
  id s := ∃ m, n ≤ m ∧ sv.around.freshId m = s
  hash s := ∃ p, sv.around.hash p = .ok s
  token := token
  time t := t = sv.around.now ∨ t = sv.around.now.withoutOffset
  stored t h := by
    rcases h with rfl | rfl
    · exact .inr rfl
    · exact .inr rfl

variable {token₁ token₂ : String → Prop}

theorem Service.clerk_draws (hw : w.Ready sv n) (token : String → Prop) :
    (sv.clerk w).Draws (sv.sources n token) :=
  ⟨⟨w.ids, hw.ids, rfl⟩, .inr rfl⟩

/-- Passwords that fare alike are stored as hashes that were drawn, or not at all. -/
theorem Service.Fare.drawn {p q : String} (h : sv₁.Fare sv₂ p q) :
    Matched (Drawn (sv₁.sources n₁ token₁).hash (sv₂.sources n₂ token₂).hash)
      ((filled (some p)).mapM sv₁.around.hash) ((filled (some q)).mapM sv₂.around.hash) := by
  by_cases hp : p = ""
  · rw [hp, h.empty.mp hp]
    exact .ok (.same none)
  · rw [filled_of_ne hp, filled_of_ne (mt h.empty.mpr hp), Option.mapM_some, Option.mapM_some]
    exact h.hashed.values.map fun a b ⟨ha, hb⟩ => .anew ⟨p, ha⟩ ⟨q, hb⟩

/-- A password that is given to both fares alike, and so does none. -/
theorem Service.Alike.drawn_filled (h : sv₁.Alike sv₂) (password : Option String) :
    Matched (Drawn (sv₁.sources n₁ token₁).hash (sv₂.sources n₂ token₂).hash)
      ((filled (filled password)).mapM sv₁.around.hash)
      ((filled (filled password)).mapM sv₂.around.hash) := by
  rw [filled_filled]
  cases password with
  | none => exact .ok (.same none)
  | some p => exact (h.hash p).drawn

/-! ### Storing an account in both -/

variable {u₁ u₂ : User} {p₁ p₂ : Option String}

theorem Service.persist_outbox (sv : Service) (w : World) (u : User)
    (password actor : Option String) : (sv.persist w u password actor).2.outbox = w.outbox := by
  rw [persist]
  cases hw : w.isOpen with
  | true => simp [World.step_of_open hw]
  | false => simp [World.step_of_closed hw]

/-- After a lost write a session sees what is lasting, and the next id is drawn. -/
theorem World.Ready.of_lost (h : w.Ready sv n) {u : User} {password actor : Option String}
    (hsession : (sv.persist w u password actor).2.session = w.session.rollback) :
    (sv.persist w u password actor).2.Ready sv n := by
  refine ⟨?_, ?_, ?_, Nat.le_succ_of_le h.ids, fun m hm => ?_⟩
  · rw [hsession]
    rfl
  · rw [hsession]
    exact h.lasting
  · rw [hsession]
    exact h.lasting
  · rw [hsession]
    exact ⟨(h.fresh m hm).2, (h.fresh m hm).2⟩

/-- How storing twins ends in peers. -/
inductive World.Persisted (v : Tables.View) (sv₁ sv₂ : Service) (n₁ n₂ : Nat) (g g' : Sources) :
    Except Failure (Option User) → World → Except Failure (Option User) → World → Prop where
  /-- Twins have been stored, and can be committed. -/
  | stored {v₁ v₂ : User} {w₁ w₂ : World} (htwins : Draft.Twins g g' v₁.toDraft v₂.toDraft)
      (hid₁ : v₁.id.isSome = true) (hid₂ : v₂.id.isSome = true) (hopen : w₁.isOpen = true)
      (hstaged₁ : w₁.session.staged = []) (hstaged₂ : w₂.session.staged = [])
      (hpolicies : w₁.SamePolicies w₂) : Persisted v sv₁ sv₂ n₁ n₂ g g' (.ok (some v₁)) w₁
        (.ok (some v₂)) w₂
  /-- The write was lost on a key in both, and the sessions see what is lasting. -/
  | lost {field message : String} {w₁ w₂ : World} {t₁ t₂ : Tables}
      (hpeers : World.Peers v sv₁ sv₂ n₁ n₂ t₁ t₂ w₁ w₂) : Persisted v sv₁ sv₂ n₁ n₂ g g'
        (.error (.duplicate field message)) w₁ (.error (.duplicate field message)) w₂
  | refused {e : Failure} {w₁ w₂ : World} (he : ∀ field message, e ≠ .duplicate field message) :
    Persisted v sv₁ sv₂ n₁ n₂ g g' (.error e) w₁ (.error e) w₂

namespace World.Peers

variable {old : Option Row} (h : World.Peers v sv₁ sv₂ n₁ n₂ t₁ t₂ w₁ w₂)
include h

/-- A new account of the scope is new in both. -/
theorem placed_new (htype : u₁.type = v.scope.type)
    (hdomain : filled u₁.domain = filled v.scope.domain) (hid₁ : u₁.id = none)
    (hid₂ : u₂.id = none) :
    Session.Placed t₁ t₂ (sv₁.clerk w₁) (sv₂.clerk w₂) u₁ u₂ none where
  agree := h.working.of_scope htype hdomain
  place₁ := by rw [Session.place?, hid₁]
  place₂ := by rw [Session.place?, hid₂]
  members r hr := nomatch hr
  consistent₁ := h.consistent₁
  consistent₂ := h.consistent₂
  fresh₁ := h.tables₁ ▸ (h.ready₁.fresh w₁.ids h.ready₁.ids).1
  fresh₂ := h.tables₂ ▸ (h.ready₂.fresh w₂.ids h.ready₂.ids).1

/-- A known account of the scope has one row in both. -/
theorem placed_known (hv : v.members = true) (htype : u₁.type = v.scope.type)
    (hdomain : filled u₁.domain = filled v.scope.domain) {r : Row} (hr : r ∈ t₁.users)
    (hscope : r.inScope v.scope = true) (hid₁ : u₁.id = some r.id) (hid₂ : u₂.id = some r.id) :
    Session.Placed t₁ t₂ (sv₁.clerk w₁) (sv₂.clerk w₂) u₁ u₂ (some r) where
  agree := h.working.of_scope htype hdomain
  place₁ := by
    simp only [Session.place?, hid₁, h.consistent₁.toSound.row?_of_mem hr, Option.map_some]
  place₂ := by
    have hr₂ := (h.working.rows r hscope).mpr hr
    simp only [Session.place?, hid₂, h.consistent₂.toSound.row?_of_mem hr₂, Option.map_some]
  members r' hr' := by
    cases hr'
    exact h.working.members hv r hr hscope
  consistent₁ := h.consistent₁
  consistent₂ := h.consistent₂
  fresh₁ := h.tables₁ ▸ (h.ready₁.fresh w₁.ids h.ready₁.ids).1
  fresh₂ := h.tables₂ ▸ (h.ready₂.fresh w₂.ids h.ready₂.ids).1

/-- Twins come to twins, or fail to be stored for one reason. -/
theorem persist_matched
    (hplaced : Session.Placed t₁ t₂ (sv₁.clerk w₁) (sv₂.clerk w₂) u₁ u₂ old)
    (hu : Draft.Twins (sv₁.sources n₁ token₁) (sv₂.sources n₂ token₂) u₁.toDraft u₂.toDraft)
    (hhash : Matched (Drawn (sv₁.sources n₁ token₁).hash (sv₂.sources n₂ token₂).hash)
      ((filled p₁).mapM sv₁.around.hash) ((filled p₂).mapM sv₂.around.hash))
    (actor : Option String) :
    Matched (fun v₁ v₂ : User => Draft.Twins (sv₁.sources n₁ token₁) (sv₂.sources n₂ token₂)
        v₁.toDraft v₂.toDraft)
      (sv₁.persist w₁ u₁ p₁ actor).1 (sv₂.persist w₂ u₂ p₂ actor).1 := by
  cases hopen : w₁.isOpen with
  | false =>
    rw [(Service.persist_of_closed hopen).1,
      (Service.persist_of_closed (h.isOpen.trans hopen)).1]
    exact .error _
  | true =>
    rw [(Service.persist_of_open hopen).1, (Service.persist_of_open (h.isOpen.trans hopen)).1]
    rw [← h.tables₁, ← h.tables₂] at hplaced
    exact Session.persist_twins h.ready₁.staged h.ready₂.staged hplaced hu hhash
      (Service.clerk_draws h.ready₁ token₁) (Service.clerk_draws h.ready₂ token₂) actor

/-- After a write that was lost in both the worlds are peers again. -/
theorem of_lost (halike : sv₁.Alike sv₂) {actor : Option String} {field message : String}
    (h₁ : (sv₁.persist w₁ u₁ p₁ actor).1 = .error (.duplicate field message))
    (h₂ : (sv₂.persist w₂ u₂ p₂ actor).1 = .error (.duplicate field message)) :
    World.Peers v sv₁ sv₂ n₁ n₂ w₁.session.lasting w₂.session.lasting
      (sv₁.persist w₁ u₁ p₁ actor).2 (sv₂.persist w₂ u₂ p₂ actor).2 := by
  obtain ⟨-, -, hsession₁⟩ := Service.persist_eq_duplicate h.ready₁.staged halike.plain₁ h₁
  obtain ⟨-, -, hsession₂⟩ := Service.persist_eq_duplicate h.ready₂.staged halike.plain₂ h₂
  refine ⟨?_, ?_, ?_, ?_, h.lasting, ?_, h.ready₁.of_lost hsession₁, h.ready₂.of_lost hsession₂⟩
  · rw [sv₁.persist_isOpen, sv₂.persist_isOpen, h.isOpen]
  · rw [sv₁.persist_outbox, sv₂.persist_outbox, h.mail]
  · rw [hsession₁]
    rfl
  · rw [hsession₂]
    rfl
  · rw [hsession₁, hsession₂]
    exact h.lasting

/-- Storing an account leaves the configuration alone. -/
theorem samePolicies_of_stored {actor : Option String} {v₁ v₂ : User}
    (h₁ : (sv₁.persist w₁ u₁ p₁ actor).1 = .ok v₁) (h₂ : (sv₂.persist w₂ u₂ p₂ actor).1 = .ok v₂) :
    (sv₁.persist w₁ u₁ p₁ actor).2.SamePolicies (sv₂.persist w₂ u₂ p₂ actor).2 := by
  refine ⟨?_, fun key => ?_, ?_⟩
  · rw [sv₁.persist_isOpen, sv₂.persist_isOpen, h.isOpen]
  · have hkept : ∀ {sv : Service} {w : World} {u v : User} {password : Option String},
        (sv.persist w u password actor).1 = .ok v →
        (sv.persist w u password actor).2.tables.configuration =
          w.session.working.configuration := by
      intro sv w u v password hok
      obtain ⟨hopen, -, -⟩ := Service.persist_eq_ok hok
      rw [(Service.persist_of_open hopen).1] at hok
      rw [World.tables, (Service.persist_of_open hopen).2]
      exact (Session.persist_eq_ok hok).keeps.2
    rw [hkept h₁, hkept h₂, h.tables₁, h.tables₂]
    exact h.working.configuration key
  · rw [sv₁.persist_outbox, sv₂.persist_outbox, h.mail]

/-- **Twins are stored as twins by peers.** -/
theorem persisted (halike : sv₁.Alike sv₂)
    (hplaced : Session.Placed t₁ t₂ (sv₁.clerk w₁) (sv₂.clerk w₂) u₁ u₂ old)
    (hu : Draft.Twins (sv₁.sources n₁ token₁) (sv₂.sources n₂ token₂) u₁.toDraft u₂.toDraft)
    (hhash : Matched (Drawn (sv₁.sources n₁ token₁).hash (sv₂.sources n₂ token₂).hash)
      ((filled p₁).mapM sv₁.around.hash) ((filled p₂).mapM sv₂.around.hash))
    (actor : Option String) :
    Program.Together sv₁.answer sv₂.answer (Program.persist u₁ p₁ actor).outcome w₁
      (Program.persist u₂ p₂ actor).outcome w₂
      (World.Persisted v sv₁ sv₂ n₁ n₂ (sv₁.sources n₁ token₁) (sv₂.sources n₂ token₂)) := by
  refine Program.together_outcome ?_
  change World.Persisted _ _ _ _ _ _ _ ((sv₁.persist w₁ u₁ p₁ actor).1.map some)
    (sv₁.persist w₁ u₁ p₁ actor).2 ((sv₂.persist w₂ u₂ p₂ actor).1.map some)
    (sv₂.persist w₂ u₂ p₂ actor).2
  have hmatched := h.persist_matched hplaced hu hhash actor
  cases h₁ : (sv₁.persist w₁ u₁ p₁ actor).1 with
  | ok v₁ =>
    cases h₂ : (sv₂.persist w₂ u₂ p₂ actor).1 with
    | error e =>
      rw [h₁, h₂] at hmatched
      cases hmatched
    | ok v₂ =>
      rw [h₁, h₂] at hmatched
      cases hmatched with
      | ok htwins =>
        obtain ⟨hopen, hstaged₁, hid₁⟩ := Service.persist_eq_ok h₁
        obtain ⟨-, hstaged₂, hid₂⟩ := Service.persist_eq_ok h₂
        exact .stored htwins hid₁ hid₂ ((sv₁.persist_isOpen _ _ _ _).trans hopen) hstaged₁ hstaged₂
          (h.samePolicies_of_stored h₁ h₂)
  | error e =>
    cases h₂ : (sv₂.persist w₂ u₂ p₂ actor).1 with
    | ok v₂ =>
      rw [h₁, h₂] at hmatched
      cases hmatched
    | error e' =>
      rw [h₁, h₂] at hmatched
      cases hmatched
      by_cases he : ∀ field message, e ≠ .duplicate field message
      · exact .refused he
      · push Not at he
        obtain ⟨field, message, rfl⟩ := he
        exact .lost (h.of_lost halike h₁ h₂)

end World.Peers

/-! ### Commits and messages -/

theorem World.SamePolicies.commit (h : w₁.SamePolicies w₂) (hopen : w₁.isOpen = true)
    (hstaged₁ : w₁.session.staged = []) (hstaged₂ : w₂.session.staged = []) :
    w₁.commit.2.SamePolicies w₂.commit.2 := by
  rw [World.commit_of_flushed hopen hstaged₁,
    World.commit_of_flushed (h.isOpen.trans hopen) hstaged₂]
  exact ⟨h.isOpen, h.configuration, h.mail⟩

namespace Program

/-- What has been stored in both is committed in both. -/
theorem together_commit_bind {k₁ : Unit → Program γ} {k₂ : Unit → Program δ}
    {Q : γ → World → δ → World → Prop} (h : w₁.SamePolicies w₂) (hopen : w₁.isOpen = true)
    (hstaged₁ : w₁.session.staged = []) (hstaged₂ : w₂.session.staged = [])
    (hk : ∀ w₁' w₂', w₁'.SamePolicies w₂' →
      Together sv₁.answer sv₂.answer (k₁ ()) w₁' (k₂ ()) w₂' Q) :
    Together sv₁.answer sv₂.answer (commit >>= k₁) w₁ (commit >>= k₂) w₂ Q := by
  have hcommit : Together sv₁.answer sv₂.answer commit w₁ commit w₂
      fun _ w₁' _ w₂' => w₁'.SamePolicies w₂' := by
    refine together_perform ?_
    have hpolicies := h.commit hopen hstaged₁ hstaged₂
    change EndedAlike _ w₁.commit w₂.commit
    rw [World.commit_of_flushed hopen hstaged₁] at hpolicies ⊢
    rw [World.commit_of_flushed (h.isOpen.trans hopen) hstaged₂] at hpolicies ⊢
    exact .ok hpolicies
  exact hcommit.bind fun _ w₁' _ w₂' hw => hk w₁' w₂' hw

end Program

/-- A notice is answered alike, whatever it says and to whom. -/
theorem Service.notify_alike (hsite : sv₂.site = sv₁.site) (h : w₁.SamePolicies w₂)
    (notice₁ notice₂ : Notice) :
    (sv₂.notify w₂ notice₂).1 = (sv₁.notify w₁ notice₁).1 ∧
      (sv₁.notify w₁ notice₁).2.SamePolicies (sv₂.notify w₂ notice₂).2 := by
  cases hopen : w₁.isOpen with
  | false =>
    have hopen₂ := h.isOpen.trans hopen
    simp only [notify, World.ask, hopen, hopen₂, Bool.false_eq_true, if_false]
    exact ⟨trivial, h⟩
  | true =>
    have hopen₂ := h.isOpen.trans hopen
    obtain ⟨m₁, hm₁, hemail₁, hname₁⟩ := Notice.compose_eq_ok sv₁.site.settings sv₁.site.catalog
      (Policy.baseUrlOf sv₁.site.settings
        (w₁.tables.configuration.value? Policy.Key.baseUrl.name)) notice₁
    obtain ⟨m₂, hm₂, hemail₂, hname₂⟩ := Notice.compose_eq_ok sv₁.site.settings sv₁.site.catalog
      (Policy.baseUrlOf sv₁.site.settings
        (w₁.tables.configuration.value? Policy.Key.baseUrl.name)) notice₂
    obtain ⟨hanswer, hmail⟩ :=
      Mail.Outbox.post_congr h.mail (hemail₂.trans hemail₁.symm) (hname₂.trans hname₁.symm)
    simp only [notify, World.ask, hopen, hopen₂, if_true, hsite, h.configuration, hm₁, hm₂]
    exact ⟨hanswer, rfl, h.configuration, hmail⟩

namespace Program

/-- Messages are accepted, declined or lost alike. -/
theorem together_sendNotice (hsite : sv₂.site = sv₁.site) (h : w₁.SamePolicies w₂)
    (b₁ b₂ : Log.Context) (u₁ u₂ : User) (token₁ token₂ : String) (confirm₁ confirm₂ : Bool) :
    Together sv₁.answer sv₂.answer (Registration.sendNotice b₁ u₁ token₁ confirm₁) w₁
      (Registration.sendNotice b₂ u₂ token₂ confirm₂) w₂
      fun p₁ w₁' p₂ w₂' => p₂ = p₁ ∧ w₁'.SamePolicies w₂' := by
  have hsent : ∀ m₁ m₂ : Notice, Together sv₁.answer sv₂.answer (Program.notify m₁).outcome w₁
      (Program.notify m₂).outcome w₂ fun r₁ w₁' r₂ w₂' => r₂ = r₁ ∧ w₁'.SamePolicies w₂' :=
    fun m₁ m₂ => together_outcome (sv₁.notify_alike hsite h m₁ m₂)
  refine (hsent _ _).bind ?_
  rintro _ w₁' sent w₂' ⟨rfl, hw'⟩
  have hlog : ∀ e₁ e₂ : Log.Event, Alike sv₁ sv₂ World.SamePolicies (log b₁ e₁) (log b₂ e₂)
      fun _ _ => True := fun e₁ e₂ => alike_log World.steady_samePolicies b₁ b₂ e₁ e₂
  match sent with
  | .ok true => exact together_pure ⟨rfl, hw'⟩
  | .ok false =>
    exact (hlog _ _).together_bind hw' fun _ _ _ _ _ hw => together_pure ⟨rfl, hw⟩
  | .error e =>
    exact (hlog _ _).together_bind hw' fun _ _ _ _ _ hw => together_pure ⟨rfl, hw⟩

/-! ### Blocks, and what is drawn -/

variable {I : World → World → Prop}

/-- A block runs its body in a world that differs at most in the names of runs. -/
theorem run_within (sv : Service) (outer : Log.Context) (workflow : String) (fields : Log.Context)
    (body : Log.Context → Program α) (w : World) : ∃ bound w', w.Beside w' ∧
      (within outer workflow fields body).run sv.answer w = (body bound).run sv.answer w' := by
  rw [within]
  split
  · exact ⟨_, w, .refl w, rfl⟩
  · exact ⟨_, { w with runs := w.runs + 1 }, ⟨⟨rfl, rfl, rfl⟩, rfl⟩, rfl⟩

/-- Two blocks end alike if their bodies do, whatever blocks they are opened in. -/
theorem together_within (hI : World.Steady I) (hw : I w₁ w₂) (outer₁ outer₂ : Log.Context)
    (workflow₁ workflow₂ : String) (fields₁ fields₂ : Log.Context)
    {body₁ : Log.Context → Program α} {body₂ : Log.Context → Program β}
    {Q : α → World → β → World → Prop}
    (hbody : ∀ b₁ b₂ w₁' w₂', I w₁' w₂' →
      Together sv₁.answer sv₂.answer (body₁ b₁) w₁' (body₂ b₂) w₂' Q) :
    Together sv₁.answer sv₂.answer (within outer₁ workflow₁ fields₁ body₁) w₁
      (within outer₂ workflow₂ fields₂ body₂) w₂ Q := by
  obtain ⟨b₁, w₁', hbeside₁, hrun₁⟩ := run_within sv₁ outer₁ workflow₁ fields₁ body₁ w₁
  obtain ⟨b₂, w₂', hbeside₂, hrun₂⟩ := run_within sv₂ outer₂ workflow₂ fields₂ body₂ w₂
  rw [Together, hrun₁, hrun₂]
  exact hbody b₁ b₂ w₁' w₂' (hI.beside hw hbeside₁ hbeside₂)

theorem alike_freshToken (hI : World.Steady I) :
    Alike sv₁ sv₂ I freshToken freshToken fun a b =>
      (∃ n, sv₁.around.token n = a) ∧ ∃ n, sv₂.around.token n = b :=
  alike_perform hI trivial trivial (fun _ h => nomatch h) (fun _ h => nomatch h)
    fun w₁ w₂ _ => .ok ⟨⟨w₁.tokens, rfl⟩, w₂.tokens, rfl⟩

theorem alike_clock (hI : World.Steady I) :
    Alike sv₁ sv₂ I clock clock fun a b => a = sv₁.around.now ∧ b = sv₂.around.now :=
  alike_perform hI trivial trivial (fun _ h => nomatch h) (fun _ h => nomatch h)
    fun _ _ _ => .ok ⟨rfl, rfl⟩

theorem alike_randomPassword (hI : World.Steady I) (halike : sv₁.Alike sv₂) (length : Int) :
    Alike sv₁ sv₂ I (randomPassword length) (randomPassword length) (sv₁.Fare sv₂) :=
  alike_perform hI trivial trivial (fun _ h => nomatch h) (fun _ h => nomatch h)
    fun _ _ _ => halike.randomPassword length

/-- A failure is put into the words of the workflow alike. -/
theorem together_wrapFailure (b₁ b₂ : Log.Context) (event purpose : String) (e : Failure)
    {Q : Outcome → World → Outcome → World → Prop} (w₁ w₂ : World) :
    Together sv₁.answer sv₂.answer (Registration.wrapFailure b₁ event purpose e) w₁
      (Registration.wrapFailure b₂ event purpose e) w₂ Q := by
  rw [Registration.wrapFailure, Registration.wrapFailure]
  by_cases he : e.isCollaborator = true
  · rw [if_pos he, if_pos he]
    exact together_fail e
  · rw [if_neg he, if_neg he]
    exact .error _ _ _

end Program
end Enrollment
