/-
The stored configuration is a finite map from keys to a text and a description.

* `Request`, `World.serve`, `World.serveAll` — what a session can be asked about the configuration:
  to store a text, to remove a key, for the text of a key, and for all entries.
* `Content`, `Book`, `Book.after`, `Book.Tells` — the map: what it becomes by a request, and what it
  answers.
* `Configuration.book` — the map that the entries of a configuration amount to.
* `World.serve_refines` — one request is answered as the map answers it.
* `configuration_refines_map` — so is every sequence of requests, whatever keys they name; from it,
  what is stored at the end is what was stored last and not removed since, and a key that had no
  entry leaves no trace once it is removed again.
-/
import Enrollment.Proofs.Consistency
import Mathlib.Data.String.Basic
import Mathlib.Logic.Function.Basic

namespace Enrollment

open Directory

/-! ### The map -/

namespace Policy

/-- What is stored under a key. -/
structure Content where
  value : Option String
  description : Option String
deriving DecidableEq

/-- What is stored in an entry. -/
def Entry.content (e : Entry) : Content := ⟨e.value, e.description⟩

/-- A map from keys to what is stored under them. -/
abbrev Book := String → Option Content

/-- One thing asked of the stored configuration. -/
inductive Request where
  | set (key : String) (value description : Option String)
  | erase (key : String)
  | get (key : String)
  | list
deriving DecidableEq

/-- What a request is answered with. -/
inductive Reply where
  /-- The entry as it has been stored. -/
  | entry (e : Option Entry)
  /-- Whether the key was there. -/
  | removed (present : Bool)
  | text (value : Option String)
  | entries (es : List Entry)
deriving DecidableEq

/-- A request that may change what is stored under a key. -/
def Request.Changes (key : String) : Request → Prop
  | .set k _ _ => k = key
  | .erase k => k = key
  | _ => False

namespace Book

/-- The map with a text under a key.  Without a description the one that is there stays. -/
def set (b : Book) (key : String) (value description : Option String) : Book :=
  Function.update b key (some ⟨value, description.or ((b key).bind (·.description))⟩)

/-- The map without a key. -/
def erase (b : Book) (key : String) : Book := Function.update b key none

/-- The map after a request. -/
def after (b : Book) : Request → Book
  | .set key value description => b.set key value description
  | .erase key => b.erase key
  | _ => b

/-- What the map answers a request with. -/
inductive Answers (b : Book) : Request → Reply → Prop where
  | set {key : String} {value description : Option String} {e : Entry} (hkey : e.key = key)
      (hstored : b.set key value description key = some e.content) :
    Answers b (.set key value description) (.entry (some e))
  | erase (key : String) : Answers b (.erase key) (.removed (b key).isSome)
  | get (key : String) : Answers b (.get key) (.text ((b key).bind (·.value)))
  /-- Each key that is there is listed once, in ascending order. -/
  | list {es : List Entry} (hascending : es.Pairwise (·.key < ·.key))
      (hlisted : ∀ e, e ∈ es ↔ b e.key = some e.content) : Answers b .list (.entries es)

/-- The replies are those of the map, request by request, and none is a failure. -/
inductive Tells : Book → List Request → List (Except Failure Reply) → Prop where
  | nil (b : Book) : Tells b [] []
  | cons {b : Book} {q : Request} {r : Reply} {qs : List Request}
      {rs : List (Except Failure Reply)} (h : b.Answers q r) (hrest : (b.after q).Tells qs rs) :
    Tells b (q :: qs) (.ok r :: rs)

variable {b : Book} {key : String} {q : Request} {qs : List Request}

theorem after_of_unchanged (h : ¬ q.Changes key) : b.after q key = b key := by
  cases q with
  | set k _ _ => exact Function.update_of_ne (Ne.symm h) _ _
  | erase k => exact Function.update_of_ne (Ne.symm h) _ _
  | get _ => rfl
  | list => rfl

theorem foldl_after_of_unchanged (h : ∀ q ∈ qs, ¬ q.Changes key) :
    qs.foldl after b key = b key := by
  induction qs generalizing b with
  | nil => rfl
  | cons q qs ih =>
    rw [List.foldl_cons, ih fun q hq => h q (List.mem_cons_of_mem _ hq)]
    exact after_of_unchanged (h q List.mem_cons_self)

/-- What the last request about a key left there is there at the end. -/
theorem foldl_after_of_last {before later : List Request}
    (h : ∀ q ∈ later, ¬ q.Changes key) :
    (before ++ q :: later).foldl after b key = (before.foldl after b).after q key := by
  rw [List.foldl_append, List.foldl_cons, foldl_after_of_unchanged h]

end Book

/-! ### The entries -/

namespace Configuration

variable {c : Configuration} {key k : String} {value description : Option String}

/-- The map that the entries amount to. -/
def book (c : Configuration) : Book := fun key => (c.entry? key).map Entry.content

theorem entry?_key {e : Entry} (h : c.entry? key = some e) : e.key = key := by
  simpa using List.find?_some h

theorem entry?_eq_none : c.entry? key = none ↔ ∀ e ∈ c, e.key ≠ key := by
  unfold entry?
  simp

theorem mem_iff_entry? (hc : (c.map (·.key)).Nodup) {e : Entry} :
    e ∈ c ↔ c.entry? e.key = some e := by
  refine ⟨fun he => ?_, List.mem_of_find?_eq_some⟩
  obtain ⟨e', he'⟩ := Option.isSome_iff_exists.mp
    (List.find?_isSome.mpr ⟨e, he, by simp⟩ : (c.entry? e.key).isSome = true)
  -- The keys are distinct, so the entry that is found under the key of `e` is `e`.
  have hsame : e' = e :=
    List.inj_on_of_nodup_map hc (List.mem_of_find?_eq_some he') he (entry?_key he')
  exact hsame ▸ he'

theorem entry?_set (c : Configuration) (key : String) (value description : Option String)
    (k : String) :
    entry? (c.set key value description) k =
      if k = key then
        some (((c.entry? key).map (·.revise value description)).getD ⟨key, value, description⟩)
      else c.entry? k := by
  rw [set]
  split
  case isTrue hknown =>
    have hrevised :
        entry? (c.map fun e => if e.key = key then e.revise value description else e) k =
          (c.entry? k).map fun e => if e.key = key then e.revise value description else e := by
      unfold entry?
      rw [List.find?_map]
      congr 2
      funext e
      by_cases he : e.key = key <;> simp [he, Entry.revise]
    rw [hrevised]
    by_cases hk : k = key
    · obtain ⟨e, he⟩ : ∃ e, c.entry? key = some e := by
        obtain ⟨e, he, hkey⟩ := List.any_eq_true.mp hknown
        exact Option.isSome_iff_exists.mp (List.find?_isSome.mpr ⟨e, he, hkey⟩)
      simp [hk, he, entry?_key he]
    · rw [if_neg hk]
      refine (Option.map_congr fun e he => ?_).trans Option.map_id'
      rw [if_neg (entry?_key he ▸ hk)]
  case isFalse hnew =>
    have hnone : c.entry? key = none :=
      entry?_eq_none.mpr fun e he hkey => hnew (List.any_eq_true.mpr ⟨e, he, by simpa using hkey⟩)
    unfold entry?
    rw [List.find?_append]
    by_cases hk : k = key
    · subst hk
      rw [show c.find? _ = none from hnone]
      simp
    · simp [hk, Ne.symm hk]

theorem entry?_erase (c : Configuration) (key k : String) :
    entry? (c.erase key) k = if k = key then none else c.entry? k := by
  unfold entry? erase
  rw [List.find?_filter]
  by_cases hk : k = key
  · simp [hk]
  · rw [if_neg hk]
    congr 1
    funext e
    by_cases he : e.key = k <;> simp [he, hk]

theorem book_set (c : Configuration) (key : String) (value description : Option String) :
    (c.set key value description).book = c.book.set key value description := by
  funext k
  rw [book, entry?_set, Book.set, Function.update_apply]
  by_cases hk : k = key
  · subst hk
    cases he : c.entry? k <;> simp [book, he, Entry.content, Entry.revise]
  · simp [hk, book]

theorem book_erase (c : Configuration) (key : String) :
    (c.erase key).book = c.book.erase key := by
  funext k
  rw [book, entry?_erase, Book.erase, Function.update_apply]
  by_cases hk : k = key <;> simp [hk, book]

theorem value?_eq (c : Configuration) (key : String) :
    c.value? key = (c.book key).bind (·.value) := by
  cases he : c.entry? key <;> simp [value?, book, he, Entry.content]

/-- The list of all entries is strictly ascending and holds what the map holds. -/
theorem answers_sorted (hc : (c.map (·.key)).Nodup) : c.book.Answers .list (.entries c.sorted) := by
  have hperm : c.sorted.Perm c := List.mergeSort_perm c _
  refine .list ?_ fun e => ?_
  · have hle : c.sorted.Pairwise fun a b => decide (a.key ≤ b.key) = true :=
      List.pairwise_mergeSort (fun a b d => by simpa using le_trans)
        (fun a b => by simpa using le_total a.key b.key) c
    have hne : (c.sorted.map (·.key)).Nodup := (hperm.map (·.key)).nodup_iff.mpr hc
    refine (hle.and (List.pairwise_map.mp hne)).imp fun hab => ?_
    exact lt_of_le_of_ne (by simpa using hab.1) hab.2
  · rw [hperm.mem_iff, mem_iff_entry? hc, book]
    cases he : c.entry? e.key with
    | none => simp
    | some e' =>
      have hkey : e'.key = e.key := entry?_key he
      obtain ⟨_, _, _⟩ := e
      obtain ⟨_, _, _⟩ := e'
      simp_all [Entry.content]

/-! ### A key that is removed again -/

theorem erase_of_absent (h : c.entry? key = none) : c.erase key = c :=
  List.filter_eq_self.mpr fun e he => by simpa using entry?_eq_none.mp h e he

theorem erase_set (h : c.entry? key = none) : (c.set key value description).erase key = c := by
  have hnew : c.any (·.key = key) = false := by simpa [entry?_eq_none] using h
  rw [set, hnew, if_neg Bool.false_ne_true, erase, List.filter_append]
  rw [show c.filter (·.key ≠ key) = c from erase_of_absent h]
  simp

theorem erase_set_of_ne (hk : k ≠ key) :
    (c.set k value description).erase key = (c.erase key).set k value description := by
  have hany : (c.erase key).any (·.key = k) = c.any (·.key = k) := by
    rw [erase, List.any_filter]
    refine congrArg c.any (funext fun e => ?_)
    by_cases he : e.key = k <;> simp [he, hk]
  rw [set, set, hany]
  split
  · rw [erase, erase, List.filter_map]
    congr 2
    funext e
    by_cases he : e.key = k <;> simp [he, Entry.revise]
  · simp [erase, List.filter_append, hk]

theorem erase_erase (c : Configuration) (k key : String) :
    (c.erase k).erase key = (c.erase key).erase k := by
  simp only [erase, List.filter_filter, Bool.and_comm]

/-! ### Requests -/

/-- The entries after a request. -/
def after (c : Configuration) : Request → Configuration
  | .set key value description => c.set key value description
  | .erase key => c.erase key
  | _ => c

theorem book_after (c : Configuration) (q : Request) : (c.after q).book = c.book.after q := by
  cases q with
  | set key value description => exact c.book_set key value description
  | erase key => exact c.book_erase key
  | get _ => rfl
  | list => rfl

theorem nodup_after (hc : (c.map (·.key)).Nodup) (q : Request) :
    ((c.after q).map (·.key)).Nodup := by
  cases q with
  | set key value description => exact nodup_set hc key value description
  | erase key => exact nodup_erase hc key
  | get _ => exact hc
  | list => exact hc

theorem book_foldl_after (c : Configuration) (qs : List Request) :
    book (qs.foldl after c) = qs.foldl Book.after c.book := by
  induction qs generalizing c with
  | nil => rfl
  | cons q qs ih => rw [List.foldl_cons, ih, book_after, List.foldl_cons]

/-- Requests about other keys do not see whether a key is there. -/
theorem erase_foldl_after {qs : List Request} (hqs : ∀ q ∈ qs, ¬ q.Changes key)
    (c : Configuration) : erase (qs.foldl after c) key = qs.foldl after (c.erase key) := by
  induction qs generalizing c with
  | nil => rfl
  | cons q qs ih =>
    have hq : (c.after q).erase key = (c.erase key).after q := by
      have hne := hqs q List.mem_cons_self
      cases q with
      | set k _ _ => exact erase_set_of_ne hne
      | erase k => exact erase_erase c k key
      | get _ => rfl
      | list => rfl
    rw [List.foldl_cons, ih (fun q hq => hqs q (List.mem_cons_of_mem _ hq)), hq, List.foldl_cons]

end Configuration
end Policy

open Policy

/-! ### A session -/

namespace Directory.Session

variable {α : Type} {s : Session} {key : String} {change : Tables → Except Failure (α × Tables)}

theorem flushWith_ok (hs : s.staged = []) {a : α} {t : Tables}
    (h : change s.working = .ok (a, t)) :
    s.flushWith change = (.ok a, { s with working := t }) := by
  have hchanged : (settled s.working s.staged >>= change) = .ok (a, t) := by rw [hs]; exact h
  rw [flushWith, hchanged, hs]

theorem flushWith_error (hs : s.staged = []) {e : Failure} (h : change s.working = .error e) :
    s.flushWith change = (.error e, s.rollback) := by
  have hchanged : (settled s.working s.staged >>= change) = .error e := by rw [hs]; exact h
  rw [flushWith, hchanged]

theorem unset_of_absent (h : s.working.configuration.entry? key = none) :
    s.unset key = (.ok false, s) := by
  rw [unset, h]
  rfl

theorem unset_of_present {e : Entry} (h : s.working.configuration.entry? key = some e) :
    s.unset key =
      s.flushWith fun t => .ok (true, { t with configuration := t.configuration.erase key }) := by
  rw [unset, h]
  rfl

end Directory.Session

namespace World

/-- A session answers a request about the configuration. -/
def serve (w : World) : Request → Except Failure Reply × World
  | .set key value description =>
    let (r, w) := w.step fun s => s.configure key value description
    (r.map .entry, w)
  | .erase key =>
    let (r, w) := w.step fun s => s.unset key
    (r.map .removed, w)
  | .get key =>
    let (r, w) := w.ask fun t => .ok (t.configuration.value? key)
    (r.map .text, w)
  | .list =>
    let (r, w) := w.ask fun t => .ok t.configuration.sorted
    (r.map .entries, w)

/-- A session answers requests, one after the other. -/
def serveAll (w : World) : List Request → List (Except Failure Reply) × World
  | [] => ([], w)
  | q :: qs => ((w.serve q).1 :: ((w.serve q).2.serveAll qs).1, ((w.serve q).2.serveAll qs).2)

/-- The world with another configuration in its session. -/
def configured (w : World) (c : Configuration) : World :=
  { w with session := { w.session with working := { w.tables with configuration := c } } }

variable {w : World}

@[simp] theorem configured_configuration (w : World) (c : Configuration) :
    (w.configured c).tables.configuration = c := rfl

/-- A change of the configuration alone, in a session that has nothing staged. -/
theorem step_configuration {α : Type} (hopen : w.isOpen = true) (hs : w.session.staged = [])
    (answer : Tables → α) (change : Tables → Configuration) :
    (w.step fun s => s.flushWith fun t => .ok (answer t, { t with configuration := change t })) =
      (.ok (answer w.tables), w.configured (change w.tables)) := by
  rw [World.step, if_pos hopen, Session.flushWith_ok hs rfl]
  rfl

/-- **One request** is answered as the map answers it, and changes nothing but the entries. -/
theorem serve_refines (hopen : w.isOpen = true) (hs : w.session.staged = [])
    (hkeys : (w.tables.configuration.map (·.key)).Nodup) (q : Request) :
    ∃ r, w.serve q = (.ok r, w.configured (w.tables.configuration.after q)) ∧
      w.tables.configuration.book.Answers q r := by
  have hask {α : Type} (f : Tables → α) : (w.ask fun t => .ok (f t)) = (.ok (f w.tables), w) := by
    rw [World.ask, if_pos hopen]
  cases q with
  | set key value description =>
    have hstored := w.tables.configuration.entry?_set key value description key
    rw [if_pos rfl] at hstored
    refine ⟨.entry <| Configuration.entry? (w.tables.configuration.set key value description) key,
      ?_, ?_⟩
    · have hstep := step_configuration hopen hs
        (fun t => Configuration.entry? (t.configuration.set key value description) key)
        (fun t => t.configuration.set key value description)
      rw [serve]
      simp only [Session.configure]
      rw [hstep]
      rfl
    · rw [hstored]
      refine .set (Configuration.entry?_key hstored) ?_
      rw [← Configuration.book_set, Configuration.book, hstored, Option.map_some]
  | erase key =>
    refine ⟨_, ?_, .erase key⟩
    have hbook : (w.tables.configuration.book key).isSome =
        (w.tables.configuration.entry? key).isSome := Option.isSome_map
    rw [serve, hbook]
    cases he : w.tables.configuration.entry? key with
    | none =>
      have hstep : (w.step fun s => s.unset key) = (.ok false, w) := by
        rw [World.step, if_pos hopen, Session.unset_of_absent he]
      rw [hstep, Configuration.after, Configuration.erase_of_absent he]
      rfl
    | some e =>
      have hstep := step_configuration hopen hs (fun _ => true) (fun t => t.configuration.erase key)
      rw [World.step, if_pos hopen, ← Session.unset_of_present he] at hstep
      rw [World.step, if_pos hopen, hstep]
      rfl
  | get key =>
    refine ⟨_, ?_, .get key⟩
    rw [serve, hask, ← Configuration.value?_eq]
    rfl
  | list =>
    refine ⟨.entries w.tables.configuration.sorted, ?_, Configuration.answers_sorted hkeys⟩
    rw [serve, hask]
    rfl

/-- **Every sequence of requests** is answered as the map answers it. -/
theorem serveAll_refines (hopen : w.isOpen = true) (hs : w.session.staged = [])
    (hkeys : (w.tables.configuration.map (·.key)).Nodup) (qs : List Request) :
    w.tables.configuration.book.Tells qs (w.serveAll qs).1 ∧
      (w.serveAll qs).2 = w.configured (qs.foldl Configuration.after w.tables.configuration) := by
  induction qs generalizing w with
  | nil => exact ⟨.nil _, rfl⟩
  | cons q qs ih =>
    obtain ⟨r, hserve, hanswers⟩ := serve_refines hopen hs hkeys q
    -- After the request the session is as before but for the entries, whose keys are distinct.
    obtain ⟨htells, hafter⟩ := ih (w := w.configured (w.tables.configuration.after q)) hopen hs
      (Configuration.nodup_after hkeys q)
    rw [configured_configuration, Configuration.book_after] at htells
    rw [serveAll, hserve]
    exact ⟨.cons hanswers htells, hafter⟩

end World

/-- **The stored configuration is a map** from keys to a text and a description, for all requests of
a session, in whatever order.  Every reply is that of the map, and at the end the entries are what
the map has become, everything else being as before.  So a key holds the text stored last, nothing
if it has been removed since, and what it held before if no request was about it.  A key that had
no entry, is stored and at last removed leaves no trace: the world is the one that the requests in
between lead to by themselves, and whatever reads a policy in it reads the same. -/
theorem configuration_refines_map (w : World) (hopen : w.isOpen = true)
    (hs : w.session.staged = []) (hkeys : (w.tables.configuration.map (·.key)).Nodup)
    (qs : List Request) :
    let b := w.tables.configuration.book
    let after := (w.serveAll qs).2.tables.configuration
    b.Tells qs (w.serveAll qs).1 ∧ after.book = qs.foldl Book.after b ∧
      (w.serveAll qs).2 = w.configured after ∧
      (∀ before later key value description,
        qs = before ++ .set key value description :: later → (∀ q ∈ later, ¬ q.Changes key) →
          after.value? key = value) ∧
      (∀ before later key,
        qs = before ++ .erase key :: later → (∀ q ∈ later, ¬ q.Changes key) →
          after.book key = none) ∧
      (∀ key, (∀ q ∈ qs, ¬ q.Changes key) → after.book key = b key) ∧
      ∀ key value description, b key = none → (∀ q ∈ qs, ¬ q.Changes key) →
        (w.serveAll (.set key value description :: qs ++ [.erase key])).2 = (w.serveAll qs).2 := by
  intro b after
  obtain ⟨htells, hrun⟩ := World.serveAll_refines hopen hs hkeys qs
  have hafter : after = qs.foldl Configuration.after w.tables.configuration := by
    rw [show after = (w.serveAll qs).2.tables.configuration from rfl, hrun,
      World.configured_configuration]
  have hbook : after.book = qs.foldl Book.after b := by
    rw [hafter, Configuration.book_foldl_after]
  refine ⟨htells, hbook, hafter ▸ hrun, fun before later key value description hqs hlater => ?_,
    fun before later key hqs hlater => ?_, fun key hqs => ?_,
    fun key value description hnew hqs => ?_⟩
  · rw [Configuration.value?_eq, hbook, hqs, Book.foldl_after_of_last hlater, Book.after, Book.set,
      Function.update_self]
    rfl
  · rw [hbook, hqs, Book.foldl_after_of_last hlater, Book.after, Book.erase, Function.update_self]
  · rw [hbook, Book.foldl_after_of_unchanged hqs]
  · have habsent : w.tables.configuration.entry? key = none := Option.map_eq_none_iff.mp hnew
    rw [(World.serveAll_refines hopen hs hkeys _).2, hrun, List.foldl_append]
    -- Removing the key at the end is removing it at the start, where it was not there.
    have hremoved := Configuration.erase_foldl_after hqs
      (w.tables.configuration.set key value description)
    rw [Configuration.erase_set habsent] at hremoved
    exact congrArg w.configured hremoved

/-- Beside an entry that holds no text, a key is stored again after it was removed, and its old
description does not come back. -/
theorem configuration_refines_map_after_removal :
    let w := World.after Service.numbered
      [.configure "c" (some "1") (some "note"), .configure "b" none none]
    let qs : List Request := [.set "c" none none, .erase "c", .erase "c", .get "c",
      .set "c" (some "2") none, .set "a" none (some "last"), .list]
    (w.serveAll qs).1 = [
        .ok (.entry (some ⟨"c", none, some "note"⟩)), .ok (.removed true), .ok (.removed false),
        .ok (.text none), .ok (.entry (some ⟨"c", some "2", none⟩)),
        .ok (.entry (some ⟨"a", none, some "last"⟩)),
        .ok (.entries [⟨"a", none, some "last"⟩, ⟨"b", none, none⟩, ⟨"c", some "2", none⟩])] ∧
      w.tables.configuration.book.Tells qs (w.serveAll qs).1 := by
  intro w qs
  exact ⟨by cbv,
    (configuration_refines_map w (by decide) (World.staged_after_numbered _) (by decide) qs).1⟩

end Enrollment
