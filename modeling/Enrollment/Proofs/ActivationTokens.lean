/-
Whom an activation token belongs to.

An account is looked up by the token that was sent to its owner, which fails where two active
accounts hold the token.  No rule of the tables prevents that.  A registration stores a token that was
drawn for it, or one that the caller brings along; a linking gives no token and takes none away.

* `Tables.FindsToken` — the lookup of a token gives its one active holder, or nothing;
* `Retokened` — what an operation that stores no account as it stands has made of the tokens;
* `Operation.Repeats` — a registration that stores a token of another active account;
* `tokens_found_iff` — throughout a history from an empty storage every lookup gives its answer,
  exactly if no registration of it repeats a token.

Of the tokens that are drawn it is relied on that no active account holds them already.
-/
import Enrollment.Proofs.Provenance

namespace Enrollment

open Directory

variable {sv : Service} {w w' : World} {op : Operation}

/-! ### Lookups -/

namespace Directory

variable {t t' : Tables} {r : Row} {token : String}

/-- An active account with an activation token. -/
structure Row.HoldsToken (r : Row) (token : String) : Prop where
  active : r.active = true
  token : r.fields.activationToken = some token

/-- The lookup of a token gives its one active holder, or nothing if there is none. -/
def Tables.FindsToken (t : Tables) (token : String) : Prop :=
  ∃ found : Option Row, t.accountByToken (some token) = .ok (found.map t.user) ∧
    ∀ r, r ∈ t.users ∧ r.HoldsToken token ↔ found = some r

/-- No two active accounts hold one token. -/
def Tables.TokensApart (t : Tables) : Prop :=
  ∀ a ∈ t.users, ∀ b ∈ t.users, ∀ token, a.HoldsToken token → b.HoldsToken token → a.id = b.id

theorem Tables.TokensApart.of_users (h : t.TokensApart) (husers : t'.users = t.users) :
    t'.TokensApart := by
  rwa [TokensApart, husers]

/-- All lookups are answered exactly if no token is held twice. -/
theorem Tables.tokensApart_iff (ht : t.Sound) : t.TokensApart ↔ ∀ token, t.FindsToken token := by
  constructor
  · intro hapart token
    have hmem : ∀ r, r ∈ t.users ∧ r.HoldsToken token ↔
        r ∈ t.users.filter fun r => r.active && r.fields.activationToken = some token := by
      intro r
      rw [List.mem_filter, Bool.and_eq_true, decide_eq_true_eq]
      exact and_congr_right fun _ => ⟨fun h => ⟨h.active, h.token⟩, fun h => ⟨h.1, h.2⟩⟩
    simp only [FindsToken, accountByToken, only, hmem]
    rcases hholders : t.users.filter _ with _ | ⟨a, _ | ⟨b, rest⟩⟩
    · exact ⟨none, rfl, fun r => by simp⟩
    · exact ⟨some a, rfl, fun r => by simp [eq_comm]⟩
    · -- Two holders would have one id, but rows stand apart.
      obtain ⟨ha, hatoken⟩ := (hmem a).mpr (by simp [hholders])
      obtain ⟨hb, hbtoken⟩ := (hmem b).mpr (by simp [hholders])
      have hrows := ht.apart.filter fun r => r.active && r.fields.activationToken = some token
      rw [hholders] at hrows
      have hab := (List.pairwise_cons.mp hrows).1 b List.mem_cons_self
      exact absurd (hapart a ha b hb token hatoken hbtoken) hab.ids
  · intro hfinds a ha b hb token hatoken hbtoken
    obtain ⟨found, -, hfound⟩ := hfinds token
    have hsame := ((hfound a).mp ⟨ha, hatoken⟩).symm.trans ((hfound b).mp ⟨hb, hbtoken⟩)
    rw [Option.some.inj hsame]

/-! ### One account stored -/

/-- A row has come into the tables, under its id, and the others are as they were. -/
structure Tables.Receives (t t' : Tables) (r : Row) : Prop where
  mem : r ∈ t'.users
  kept : ∀ o ∈ t.users, o.id ≠ r.id → o ∈ t'.users
  others : ∀ o ∈ t'.users, o ∈ t.users ∨ o = r

theorem Tables.receives_of_write {x : Write} (hdue : x.Due t)
    (h : t.write x = .ok t') : t.Receives t' x.row := by
  obtain ⟨-, rfl⟩ := write_eq_ok.mp h
  refine ⟨?_, fun o ho hne => ?_, fun o ho => mem_usersAfter ho⟩
  · change x.row ∈ t.usersAfter x
    rw [usersAfter]
    split
    · simp
    · rename_i hknown
      obtain ⟨o, ho, hid⟩ := List.mem_map.mp (hdue.known (by simpa using hknown))
      exact List.mem_map.mpr ⟨o, ho, if_pos hid⟩
  · change o ∈ t.usersAfter x
    rw [usersAfter]
    split
    · exact List.mem_append_left _ ho
    · exact List.mem_map.mpr ⟨o, ho, if_neg hne⟩

/-- Tokens stay apart where nobody else holds the token of the row that comes. -/
theorem Tables.TokensApart.receives (h : t.TokensApart) (hr : t.Receives t' r)
    (hfree : ∀ token, r.HoldsToken token → ∀ o ∈ t.users, o.HoldsToken token → o.id = r.id) :
    t'.TokensApart := by
  intro a ha b hb token hatoken hbtoken
  rcases hr.others a ha with ha | rfl
  · rcases hr.others b hb with hb | rfl
    · exact h a ha b hb token hatoken hbtoken
    · exact hfree token hbtoken a ha hatoken
  · rcases hr.others b hb with hb | rfl
    · exact (hfree token hatoken b hb hbtoken).symm
    · rfl

/-- The rows that count beside an account are those of other ids than it is stored under. -/
theorem Session.counts_iff {clerk : Clerk} {u : User} {old : Option Row}
    {hashed actor : Option String} (hplace : place? t u = some old)
    (h : t.write (writeOf clerk old u hashed actor) = .ok t') :
    ∀ o ∈ t.users, o.counts u.id = true ↔ o.id ≠ (writeOf clerk old u hashed actor).row.id := by
  intro o ho
  refine ⟨fun hcounts hid => ?_, Linking.counts_of_ne hplace⟩
  cases old with
  | some r =>
    rw [Row.counts, (known_of_place? hplace).2, hid] at hcounts
    simp [writeOf] at hcounts
  | none =>
    -- The id of a new account was not there before.
    have hnew := Tables.row?_eq_none.mp ((Tables.joinable_of_write h).id rfl)
    exact hnew (hid ▸ List.mem_map_of_mem ho)

end Directory

/-! ### Tokens that are drawn -/

/-- The installation, with tokens drawn from a place in their row on. -/
def Service.drawingFrom (sv : Service) (first : Nat) : Service :=
  { sv with around := { sv.around with token := fun n => sv.around.token (max n first) } }

theorem World.step_tokens {α : Type} (w : World)
    (f : Session → Except Failure α × Session) : (w.step f).2.tokens = w.tokens := by
  rw [World.step]
  split <;> rfl

/-- No call takes a token back that was drawn. -/
theorem Service.answer_tokens (sv : Service) (c : Call) (w : World) :
    w.tokens ≤ (sv.answer c w).2.tokens := by
  have hask : ∀ {α : Type} (q : Tables → Except Failure α), w.tokens ≤ (w.ask q).2.tokens :=
    fun q => by rw [World.ask_snd]
  cases c with
  | configValue key => exact hask _
  | loginFree login scope exclude => exact hask _
  | emailFree email scope exclude => exact hask _
  | accountByLogin login scope => exact hask _
  | group id => exact hask _
  | persist user password actor =>
    exact (w.step_tokens fun s => s.persist (sv.clerk w) user password actor).ge
  | randomPassword length => exact le_rfl
  | freshToken => exact Nat.le_succ w.tokens
  | freshRun => exact le_rfl
  | clock => exact le_rfl
  | notify notice =>
    change w.tokens ≤ (sv.notify w notice).2.tokens
    rw [notify]
    split
    · rename_i e w' h
      exact (congrArg (fun x => x.2.tokens) h) ▸ hask _
    · rename_i stored w' h
      have hw' : w.tokens ≤ w'.tokens := (congrArg (fun x => x.2.tokens) h) ▸ hask _
      split
      · exact hw'
      · exact hw'
  | commit =>
    change w.tokens ≤ w.commit.2.tokens
    rw [World.commit]
    split
    · exact (w.step_tokens _).ge
    · exact le_rfl
  | rollback => exact le_rfl
  | log event => exact le_rfl

/-- A run draws no token that was drawn before. -/
theorem Service.run_drawingFrom {α : Type} (sv : Service) (p : Program α) (w : World) :
    (sv.drawingFrom w.tokens).run p w = sv.run p w := by
  refine p.run_congr (I := fun w' => w.tokens ≤ w'.tokens) (fun c w' hw' => ?_)
    (fun c w' hw' => hw'.trans (sv.answer_tokens c w')) w le_rfl
  cases c with
  | freshToken => simp only [answer, drawingFrom, Nat.max_eq_left hw']
  | _ => rfl

/-! ### Registrations and linkings -/

/-- The row of an account that has been registered, and its token: the one that came with the
candidate, or one that was drawn. -/
structure Enlisted (sv : Service) (w w' : World) (candidate : User) (token : Option String)
    (r : Row) : Prop where
  receives : w.tables.Receives w'.tables r
  active : r.active = !candidate.deleted
  others : ∀ o ∈ w.tables.users, o.counts candidate.id = true ↔ o.id ≠ r.id
  given : ∀ t ∈ token.filter (· ≠ ""), r.fields.activationToken = some t
  drawn : token.filter (· ≠ "") = none →
    ∃ n, w.tokens ≤ n ∧ r.fields.activationToken = some (sv.around.token n)
  lasting : w'.session.lasting = w'.session.working

namespace Registration

variable {candidate : User} {password token : Option String}

/-- The account that a registration has stored, read off the attempt that drew its token from those
that were not drawn before. -/
theorem Attempt.enlisted (x : Attempt (sv.drawingFrom w.tokens) w candidate token)
    (hw : w.session.Orderly) {u : User} {s : Session}
    (hsession : w'.session = { s with lasting := s.working })
    (hstored : Session.Stored w.session (sv.clerk w) x.account password none u s) :
    ∃ r, Enlisted sv w w' candidate token r := by
  obtain ⟨-, old, hash, hplace, hwrite⟩ := hstored.orderly hw
  have htables : w'.tables = s.working := by rw [World.tables, hsession]
  have hkeys := toStore_sameKeys candidate x.drawn
    (w.tables.confirmationRequired (sv.drawingFrom w.tokens).site.settings)
  rw [← x.draft] at hkeys
  have htoken : x.account.activationToken = some x.drawn := by
    rw [x.draft]
    cases w.tables.confirmationRequired (sv.drawingFrom w.tokens).site.settings <;> rfl
  refine ⟨_, htables ▸ Tables.receives_of_write (Session.due_of_place? hplace) hwrite,
    congrArg Bool.not hkeys.deleted, ?_, fun t ht => ?_, fun hnone => ?_, by rw [hsession]⟩
  · rw [← x.account_id]
    exact Session.counts_iff hplace hwrite
  · rw [← x.given t ht]
    exact htoken
  · obtain ⟨n, hn⟩ := x.fresh hnone
    exact ⟨max n w.tokens, le_max_right _ _, hn ▸ htoken⟩

theorem registerUser_enlisted (hw : w.session.Orderly) (outer : Log.Context) (candidate : User)
    (password token : Option String) :
    let run := sv.run (registerUser sv.site outer candidate password token) w
    Succeeded run.1 → ∃ r, Enlisted sv w run.2 candidate token r := by
  intro run hsucceeded
  have hrun : _ = run := sv.run_drawingFrom (registerUser sv.site outer candidate password token) w
  rw [← hrun] at hsucceeded ⊢
  obtain ⟨x, u, s, hsession, hstored⟩ := registerUser_stored (sv.drawingFrom w.tokens) w outer
    candidate password token hsucceeded
  exact x.enlisted hw hsession hstored

theorem register_enlisted (hw : w.session.Orderly) (outer : Log.Context) (form : Form) :
    let run := sv.run (register sv.site outer form) w
    Created run.1 → ∃ (candidate : User) (r : Row), Enlisted sv w run.2 candidate none r := by
  intro run hcreated
  have hrun : _ = run := sv.run_drawingFrom (register sv.site outer form) w
  rw [← hrun] at hcreated ⊢
  obtain ⟨o, u, ho, hu⟩ := hcreated.exists_user
  obtain ⟨group, s, x, -, hsession, hstored⟩ :=
    register_stored (sv.drawingFrom w.tokens) w outer form o u ho hu
  obtain ⟨r, h⟩ := x.enlisted hw hsession hstored
  exact ⟨_, r, h⟩

end Registration

namespace Linking

variable {a : Assertion} {provider : String}

theorem Attempt.activationToken (x : Attempt sv w a provider) :
    x.account.activationToken = x.existing.bind fun u => u.activationToken := by
  have hdraft := x.draft
  rw [draftFor, withLocale_eq] at hdraft
  have htoken := congrArg Draft.activationToken hdraft
  dsimp only at htoken
  rw [htoken]
  cases x.existing with
  | none => cases x.group <;> rfl
  | some u => rfl

/-- The row of a linked account holds a token only if the row in whose place it comes held it. -/
theorem Attempt.holdsToken (x : Attempt sv w a provider) (hw : w.tables.Sound)
    {clerk : Session.Clerk} {old : Option Row} {hashed : Option String}
    (hplace : Session.place? w.tables x.account = some old) {token : String}
    (h : (Session.writeOf clerk old x.account hashed (some systemActor)).row.HoldsToken token) :
    ∃ r ∈ w.tables.users, r.HoldsToken token ∧
      r.id = (Session.writeOf clerk old x.account hashed (some systemActor)).row.id := by
  have htoken : x.account.activationToken = some token := h.token
  rw [x.activationToken] at htoken
  cases hexisting : x.existing with
  | none =>
    rw [hexisting] at htoken
    cases htoken
  | some u =>
    obtain ⟨r, hr, hscope, -, rfl⟩ := hw.of_accountByLogin (hexisting ▸ x.found)
    cases hplace.symm.trans (x.place?_of_known hw hr hexisting)
    rw [hexisting] at htoken
    exact ⟨r, hr, ⟨(Row.inScope_eq_true.mp hscope).1, htoken⟩, rfl⟩

/-- The row of a linking that succeeds, which came into the tables as they were or into those that
last. -/
theorem linkOrCreate_receives (hw : w.session.Orderly) (hhash : sv.around.PlainHasher)
    (outer : Log.Context) (a : Assertion) (provider : String) :
    let run := sv.run (linkOrCreate sv.site outer a provider) w
    Succeeded run.1 → ∃ (t : Tables) (r : Row),
      (t = w.session.working ∨ t = w.session.lasting) ∧ t.Receives run.2.tables r ∧
        (∀ token, r.HoldsToken token → ∃ o ∈ t.users, o.HoldsToken token ∧ o.id = r.id) ∧
        run.2.session.lasting = run.2.session.working := by
  intro run hsucceeded
  obtain ⟨w₁, x, old, hashed, t', hleft, hplace, hwrite, hsession, -⟩ :=
    linkOrCreate_written hw.staged hhash outer a provider hsucceeded
  have hw₁ : w₁.tables.Consistent := (hw.of_left hleft).working
  have hrow := Tables.receives_of_write (Session.due_of_place? hplace) hwrite
  have htables : run.2.tables = t' := congrArg Session.working hsession
  rw [← htables] at hrow
  refine ⟨w₁.tables, _, hleft.working, hrow, fun token => x.holdsToken hw₁.toSound hplace, ?_⟩
  rw [hsession]

end Linking

/-! ### One turn -/

/-- The tokens of the accounts that are seen are apart, and so are those of the ones that last. -/
structure World.TokensApart (w : World) : Prop where
  working : w.session.working.TokensApart
  lasting : w.session.lasting.TokensApart

/-- The tokens that will be drawn are those of no active account. -/
def World.DrawsFreshTokens (sv : Service) (w : World) : Prop :=
  ∀ n, w.tokens ≤ n → ∀ o ∈ w.tables.users, ¬ o.HoldsToken (sv.around.token n)

/-- A registration that succeeds, of an active candidate that comes with the token of another active
account. -/
def Operation.Repeats (sv : Service) (outer : Log.Context) (w : World) : Operation → Prop
  | .registerUser candidate password token =>
    Succeeded (sv.run (Registration.registerUser sv.site outer candidate password token) w).1 ∧
      candidate.deleted = false ∧ ∃ t ∈ token.filter (· ≠ ""), ∃ o ∈ w.tables.users,
        o.HoldsToken t ∧ o.counts candidate.id = true
  | _ => False

/-- What an operation that stores no account as it stands has made of the activation tokens. -/
inductive Retokened (sv : Service) (outer : Log.Context) (w w' : World) : Operation → Prop where
  /-- No account has been stored. -/
  | unstored {op : Operation} (h : w.session.SameRows w'.session) : Retokened sv outer w w' op
  | handed {candidate : User} {password token : Option String} {r : Row}
      (hsucceeded : Succeeded
        (sv.run (Registration.registerUser sv.site outer candidate password token) w).1)
      (h : Enlisted sv w w' candidate token r) :
    Retokened sv outer w w' (.registerUser candidate password token)
  | registered {form : Registration.Form} {candidate : User} {r : Row}
      (h : Enlisted sv w w' candidate none r) : Retokened sv outer w w' (.register form)
  /-- A linked account has the token that it had before, if any. -/
  | linked {a : Assertion} {provider : String} {t : Tables} {r : Row}
      (ht : t = w.session.working ∨ t = w.session.lasting) (hrow : t.Receives w'.tables r)
      (hkept : ∀ token, r.HoldsToken token → ∃ o ∈ t.users, o.HoldsToken token ∧ o.id = r.id)
      (hlasting : w'.session.lasting = w'.session.working) :
    Retokened sv outer w w' (.link a provider)

theorem Operation.retokened (hw : w.session.Orderly) (hhash : sv.around.PlainHasher)
    (outer : Log.Context) (op : Operation) (hop : op.Worked) :
    Retokened sv outer w (op.perform sv outer w) op := by
  have hdeed := (op.deed hw hhash outer hop).2
  cases op with
  | persist user password actor => exact hop.elim
  | registerUser candidate password token =>
    by_cases hsucceeded : Succeeded
        (sv.run (Registration.registerUser sv.site outer candidate password token) w).1
    · obtain ⟨r, h⟩ :=
        Registration.registerUser_enlisted hw outer candidate password token hsucceeded
      exact .handed hsucceeded h
    · exact .unstored (.of_left
        (Registration.registerUser_left hw.staged hhash outer candidate password token hsucceeded))
  | register form =>
    by_cases hcreated :
        Registration.Created (sv.run (Registration.register sv.site outer form) w).1
    · obtain ⟨candidate, r, h⟩ := Registration.register_enlisted hw outer form hcreated
      exact .registered h
    · exact .unstored (.of_left
        (Registration.register_left hw.staged hhash outer form hcreated))
  | link a provider =>
    by_cases hsucceeded :
        Succeeded (sv.run (Linking.linkOrCreate sv.site outer a provider) w).1
    · obtain ⟨t, r, ht, hrow, hkept, hlasting⟩ :=
        Linking.linkOrCreate_receives hw hhash outer a provider hsucceeded
      exact .linked ht hrow hkept hlasting
    · exact .unstored (.of_left
        (Linking.linkOrCreate_left hw.staged hhash outer a provider hsucceeded))
  | _ =>
    cases hdeed with
    | unstored h => exact .unstored h

/-- A registered account keeps the tokens apart, if nobody else holds the token it came with. -/
theorem Enlisted.apart {candidate : User} {token : Option String} {r : Row}
    (h : Enlisted sv w w' candidate token r) (hw : w.TokensApart) (hfresh : w.DrawsFreshTokens sv)
    (hfree : candidate.deleted = false → ∀ t ∈ token.filter (· ≠ ""), ∀ o ∈ w.tables.users,
      o.HoldsToken t → o.counts candidate.id ≠ true) : w'.TokensApart := by
  have hworking : w'.tables.TokensApart := by
    refine hw.working.receives h.receives fun t ht o ho hot => ?_
    by_contra hne
    cases hgiven : token.filter (· ≠ "") with
    | some given =>
      have hsame : some given = some t := (h.given given hgiven).symm.trans ht.token
      cases hsame
      have hactive : candidate.deleted = false := by
        simpa [h.active] using ht.active
      exact hfree hactive t hgiven o ho hot ((h.others o ho).mpr hne)
    | none =>
      obtain ⟨n, hn, hdrawn⟩ := h.drawn hgiven
      have hsame : some (sv.around.token n) = some t := hdrawn.symm.trans ht.token
      cases hsame
      exact hfresh n hn o ho hot
  exact ⟨hworking, h.lasting.symm ▸ hworking⟩

/-- **What a turn keeps**: tokens stay apart, unless it repeats one. -/
theorem Retokened.apart {outer : Log.Context} (h : Retokened sv outer w w' op) (hw : w.TokensApart)
    (hfresh : w.DrawsFreshTokens sv) (hnot : ¬ op.Repeats sv outer w) : w'.TokensApart := by
  cases h with
  | unstored h =>
    refine ⟨?_, ?_⟩
    · rcases h.working with h | h
      · exact hw.working.of_users h
      · exact hw.lasting.of_users h
    · rcases h.lasting with h | h
      · exact hw.lasting.of_users h
      · exact hw.working.of_users h
  | handed hsucceeded h =>
    refine h.apart hw hfresh fun hactive t ht o ho hot hcounts => ?_
    exact hnot ⟨hsucceeded, hactive, t, ht, o, ho, hot, hcounts⟩
  | registered h => exact h.apart hw hfresh fun _ t ht => nomatch ht
  | @linked _ _ t r ht hrow hkept hlasting =>
    have hapart : t.TokensApart := by
      rcases ht with rfl | rfl
      · exact hw.working
      · exact hw.lasting
    have hworking : w'.tables.TokensApart := by
      refine hapart.receives hrow fun token hr o ho hot => ?_
      obtain ⟨r₀, hr₀, hr₀t, hid⟩ := hkept token hr
      rw [← hid]
      exact hapart o ho r₀ hr₀ token hot hr₀t
    exact ⟨hworking, hlasting.symm ▸ hworking⟩

/-- After a turn that repeats a token it is held twice. -/
theorem Operation.Repeats.not_apart {outer : Log.Context} (h : op.Repeats sv outer w)
    (hw : w.session.Orderly) : ¬ (op.perform sv outer w).tables.TokensApart := by
  cases op with
  | registerUser candidate password token =>
    obtain ⟨hsucceeded, hactive, t, ht, o, ho, hot, hcounts⟩ := h
    obtain ⟨r, hr⟩ :=
      Registration.registerUser_enlisted hw outer candidate password token hsucceeded
    have hne : o.id ≠ r.id := (hr.others o ho).mp hcounts
    have hrt : r.HoldsToken t := ⟨by rw [hr.active, hactive]; rfl, hr.given t ht⟩
    exact fun hapart => hne (hapart o (hr.receives.kept o ho hne) r hr.receives.mem t hot hrt)
  | _ => exact h.elim

/-! ### Histories -/

section History

variable {start : World} {history : List Turn}

/-- The histories of an installation that began empty, in which no account is stored as it stands and
no token is drawn that an active account holds. -/
structure TokenHistory (start : World) (history : List Turn) : Prop where
  empty : start.session = {}
  worked : ∀ x ∈ history, x.operation.Worked
  hasher : ∀ x ∈ history, x.service.around.PlainHasher
  drawn : ∀ before x later, history = before ++ x :: later →
    (start.through before).DrawsFreshTokens x.service

theorem TokenHistory.before {before later : List Turn} (h : TokenHistory start (before ++ later)) :
    TokenHistory start before where
  empty := h.empty
  worked x hx := h.worked x (List.mem_append_left _ hx)
  hasher x hx := h.hasher x (List.mem_append_left _ hx)
  drawn before' x later' heq := h.drawn before' x (later' ++ later) (by rw [heq]; simp)

theorem TokenHistory.orderly (h : TokenHistory start history) :
    (start.through history).session.Orderly := by
  -- The last turn last: it begins in an orderly session.
  induction history using List.reverseRecOn with
  | nil =>
    change start.session.Orderly
    rw [h.empty]
    exact .empty
  | append_singleton history x ih =>
    rw [start.through_concat]
    have hlast : x ∈ history ++ [x] := by simp
    exact (x.operation.deed (ih h.before) (h.hasher x hlast) x.outer (h.worked x hlast)).1

/-- No registration of a history repeats a token. -/
def NeverRepeats (start : World) (history : List Turn) : Prop :=
  ∀ before x later, history = before ++ x :: later →
    ¬ x.operation.Repeats x.service x.outer (start.through before)

theorem NeverRepeats.before {before later : List Turn}
    (h : NeverRepeats start (before ++ later)) : NeverRepeats start before :=
  fun before' x later' heq => h before' x (later' ++ later) (by rw [heq]; simp)

/-- **What a history keeps**: tokens are apart as long as none is repeated. -/
theorem TokenHistory.apart (h : TokenHistory start history) (hnever : NeverRepeats start history) :
    (start.through history).TokensApart := by
  induction history using List.reverseRecOn with
  | nil =>
    have hapart : Tables.TokensApart {} := fun a ha => nomatch ha
    change start.TokensApart
    exact ⟨by rw [h.empty]; exact hapart, by rw [h.empty]; exact hapart⟩
  | append_singleton history x ih =>
    have hlast : x ∈ history ++ [x] := by simp
    rw [start.through_concat]
    have hturn := x.operation.retokened h.before.orderly (h.hasher x hlast) x.outer
      (h.worked x hlast)
    exact hturn.apart (ih h.before hnever.before) (h.drawn history x [] rfl)
      (hnever history x [] rfl)

/-- **Every lookup of a token is answered exactly as long as no registration repeats one**: in each
state of a history the lookup of every token gives the one active account that holds it, or nothing,
both in what is seen and in what lasts, if and only if no registration with the token of another
active account has succeeded. -/
theorem tokens_found_iff (start : World) (history : List Turn) (h : TokenHistory start history) :
    (∀ before later, history = before ++ later → ∀ token,
      (start.through before).session.working.FindsToken token ∧
        (start.through before).session.lasting.FindsToken token) ↔
      NeverRepeats start history := by
  constructor
  · -- After a turn that repeats a token its lookup would fail.
    rintro hfinds before x later rfl hrepeats
    rw [List.append_cons] at h
    have hfound := hfinds (before ++ [x]) later (List.append_cons before x later)
    have hapart := (Tables.tokensApart_iff h.before.orderly.working.toSound).mpr
      fun token => (hfound token).1
    rw [start.through_concat] at hapart
    exact hrepeats.not_apart h.before.before.orderly hapart
  · -- Every state of the history ends a part of it, in which no token is repeated either.
    rintro hnever before later rfl token
    have hbefore : TokenHistory start before := h.before
    have hapart := hbefore.apart hnever.before
    have horderly := hbefore.orderly
    exact ⟨(Tables.tokensApart_iff horderly.working.toSound).mp hapart.working token,
      (Tables.tokensApart_iff horderly.lasting.toSound).mp hapart.lasting token⟩

/-- Tokens are fresh that are longer than all that are held. -/
theorem World.drawsFreshTokens_of_length (hdrawn : ∀ n, n + 2 ≤ (sv.around.token n).length)
    (hheld : w.tables.users.all fun o =>
      o.fields.activationToken.all fun t => t.length < w.tokens + 2) : w.DrawsFreshTokens sv := by
  intro n hn o ho hot
  have hshort := List.all_eq_true.mp hheld o ho
  rw [hot.token, Option.all_some, decide_eq_true_eq] at hshort
  have hlong := hdrawn n
  omega

/-- One registers with a token of her own, one with a token that is drawn, and a third is linked. -/
theorem tokens_found_after_registrations :
    let alice : User := { login := "alice", valid := by decide }
    let bruno : User := { login := "bruno", valid := by decide }
    let around : Surroundings :=
      { Surroundings.numbered with token := fun n => String.ofList (List.replicate (n + 2) 't') }
    let history := [.registerUser alice none (some "m"), .registerUser bruno none none,
      .link { uid := "carol" } "google"].map
        fun operation => ({ service := { around }, operation } : Turn)
    TokenHistory {} history ∧ NeverRepeats {} history ∧
      ∀ token, (World.through {} history).session.working.FindsToken token := by
  intro alice bruno around history
  have hservice : ∀ x ∈ history, x.service = { around } := by simp [history]
  have hdrawn : ∀ n, n + 2 ≤ (around.token n).length := by simp [around]
  have hhistory : TokenHistory {} history := by
    refine ⟨rfl, by simp [history, Operation.Worked], fun x hx => ?_, ?_⟩
    · rw [hservice x hx]
      exact fun password e h => nomatch h
    · intro before x later h
      change [(_ : Turn), _, _] = _ at h
      match before with
      | [] => cases h; exact World.drawsFreshTokens_of_length hdrawn (by decide +kernel)
      | [_] => cases h; exact World.drawsFreshTokens_of_length hdrawn (by decide +kernel)
      | [_, _] => cases h; exact World.drawsFreshTokens_of_length hdrawn (by decide +kernel)
      | _ :: _ :: _ :: _ => simp at h
  have hnever : NeverRepeats {} history := by
    intro before x later h
    change [(_ : Turn), _, _] = _ at h
    match before with
    | [] =>
      cases h
      rintro ⟨-, -, t, -, o, ho, -⟩
      cases ho
    | [_] =>
      cases h
      rintro ⟨-, -, t, ht, -⟩
      cases ht
    | [_, _] => cases h; exact fun h => h
    | _ :: _ :: _ :: _ => simp at h
  refine ⟨hhistory, hnever, fun token => ?_⟩
  exact ((tokens_found_iff {} history hhistory).mpr hnever history [] (by simp) token).1

/-- Two register with one token: both are stored, and the lookup of the token fails. -/
theorem tokens_found_counterexample :
    let alice : User := { login := "alice", valid := by decide }
    let bruno : User := { login := "bruno", valid := by decide }
    let w := World.after .numbered
      [.registerUser alice none (some "t"), .registerUser bruno none (some "t")]
    w.session.staged = [] ∧
      w.tables.users.map (fun r => (r.fields.login, r.active, r.fields.activationToken)) =
        [("alice", true, some "t"), ("bruno", true, some "t")] ∧
      w.tables.accountByToken (some "t") = .error .ambiguous ∧
      ¬ w.tables.FindsToken "t" := by
  intro alice bruno w
  have hlookup : w.tables.accountByToken (some "t") = .error .ambiguous := by decide +kernel
  refine ⟨World.staged_after_numbered _, by decide +kernel, hlookup, ?_⟩
  rintro ⟨found, hfound, -⟩
  rw [hlookup] at hfound
  cases hfound

end History

end Enrollment
