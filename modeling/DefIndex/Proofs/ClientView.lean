import DefIndex.Session
import DefIndex.Proofs.Reports

/-!
# `DefIndex.Proofs.ClientView`: a client of several rebuilds at once

A language server may have several rebuilds of its workspace under way.
Each one takes a version number, indexes the disk, publishes what it built
and is given the current snapshot, which it then reports to the client. A
rebuild that fails reports nothing. Each of these steps happens at once,
and the steps of different rebuilds come in any order; the disk may change
between any two of them.

* `Server.step` takes one action. An action whose turn has not come, or
  has passed, changes nothing.
* `Server.Change` lists what an action can do, and `step_change` proves
  that the list is complete.
* `Server.Sound` is the invariant. It ties the version that was sent last
  and the files that the publisher remembers to what the client shows.
* `faithful_run` is the statement about what the client shows.
-/

set_option autoImplicit false

namespace DefIndex

/-! ### What a rebuild has built -/

/-- The snapshot that a rebuild has built, once it has. -/
def Rebuild.own? (b : Rebuild) : Option Snapshot :=
  match b.progress with
  | .started => none
  | .failed _ => none
  | .indexed own => some own
  | .published own _ => some own

/-- A rebuild has built a snapshot before an action, or the action builds
it. -/
theorem Rebuilds.Change.own {r r' : Rebuilds} {action : Action} (h : Change r action r')
    {k : Nat} {b : Rebuild} {own : Snapshot} (hk : r'.all[k]? = some b)
    (hown : b.own? = some own) :
    (∃ b', r.all[k]? = some b' ∧ b'.own? = some own) ∨
      ∃ (which version : Nat) (source : Source), action = .index which source ∧
        r.workspace.index source version = .ok own := by
  cases h with
  | idle => exact Or.inl ⟨b, hk, hown⟩
  | started =>
      rw [getElem?_concat] at hk
      split at hk
      · cases hk
        cases hown
      · exact Or.inl ⟨b, hk, hown⟩
  | failed found _ =>
      rw [getElem?_set_of_some found] at hk
      split at hk
      · cases hk
        cases hown
      · exact Or.inl ⟨b, hk, hown⟩
  | @indexed which version source new found built =>
      rw [getElem?_set_of_some found] at hk
      split at hk
      · cases hk
        cases hown
        exact Or.inr ⟨which, version, source, rfl, built⟩
      · exact Or.inl ⟨b, hk, hown⟩
  | published found =>
      rw [getElem?_set_of_some found] at hk
      split at hk
      next heq =>
        cases hk
        cases hown
        exact Or.inl ⟨_, heq ▸ found, rfl⟩
      next => exact Or.inl ⟨b, hk, hown⟩

/-! ### Steps -/

/-- A language server with the rebuilds of its workspace and its client. -/
structure Server where
  rebuilds : Rebuilds
  publisher : Publisher
  /-- What the client was sent, in order. -/
  sent : List FileReport
  /-- The places of the rebuilds that have reported. -/
  reported : List Nat

namespace Server

/-- The next step of a rebuild, which is known by its place. -/
inductive Action where
  /-- A rebuild begins and takes a version number. -/
  | start
  /-- A rebuild finds, reads and indexes the files on the disk. -/
  | index (which : Nat) (disk : Disk)
  /-- A rebuild publishes its snapshot. -/
  | publish (which : Nat)
  /-- A rebuild reports the snapshot that it was given. -/
  | report (which : Nat)

/-- A server before its first rebuild. -/
def fresh (root : Path) (settings : Settings) : Server :=
  ⟨.fresh root settings, .start, [], []⟩

/-- What the client shows for a file. -/
def view (s : Server) (file : Path) : List Diagnostic := clientView s.sent file

/-- Send the problems of a snapshot for a rebuild. -/
def send (s : Server) (which : Nat) (given : Snapshot) : Server :=
  let (reports, publisher) := s.publisher.publish given
  { s with
    publisher := publisher
    sent := s.sent ++ reports
    reported := which :: s.reported }

/-- Take one action. -/
def step (s : Server) : Action → Server
  | .start => { s with rebuilds := s.rebuilds.step .start }
  | .index which disk => { s with rebuilds := s.rebuilds.step (.index which (.disk disk)) }
  | .publish which => { s with rebuilds := s.rebuilds.step (.publish which) }
  | .report which =>
    match s.rebuilds.all[which]? with
    | some ⟨_, .published _ given⟩ => if which ∈ s.reported then s else s.send which given
    | _ => s

/-- Take actions one after the other. -/
def run (s : Server) (actions : List Action) : Server := actions.foldl step s

/-- The steps of one rebuild in a row. -/
def alone (s : Server) (disk : Disk) : Server :=
  let which := s.rebuilds.all.length
  s.run [.start, .index which disk, .publish which, .report which]

/-! ### What an action can do -/

/-- What an action can do to a server. -/
inductive Change (s : Server) : Server → Prop where
  /-- Nothing. -/
  | idle : Change s s
  /-- A rebuild takes a step that the client does not see. What it indexes
  is a disk. -/
  | advanced (action : Rebuilds.Action)
      (fromDisk : ∀ which source, action = .index which source → ∃ disk, source = .disk disk) :
      Change s { s with rebuilds := s.rebuilds.step action }
  /-- A rebuild reports the snapshot that it was given. -/
  | reported {which version : Nat} {own given : Snapshot}
      (found : s.rebuilds.all[which]? = some ⟨version, .published own given⟩) :
      Change s (s.send which given)

/-- Every action makes one of the changes. -/
theorem step_change (s : Server) (action : Action) : Change s (s.step action) := by
  cases action with
  | start => exact .advanced .start (by rintro which source ⟨⟩)
  | index which disk =>
      refine .advanced (.index which (.disk disk)) ?_
      rintro _ _ ⟨⟩
      exact ⟨disk, rfl⟩
  | publish which => exact .advanced (.publish which) (by rintro which source ⟨⟩)
  | report which =>
      rw [step]
      split
      next version own given found =>
        split
        · exact .idle
        · exact .reported found
      next => exact .idle

/-! ### The invariant -/

/-- A rebuild has reported this snapshot. -/
def Processed (s : Server) (t : Snapshot) : Prop :=
  ∃ k ∈ s.reported, ∃ (version : Nat) (own : Snapshot),
    s.rebuilds.all[k]? = some ⟨version, .published own t⟩

/-- The client shows the newest of the snapshots reported so far, and
nothing as long as there is none. -/
def ShowsNewest (s : Server) : Prop :=
  (∀ t, ¬ s.Processed t) ∧ (∀ file, s.view file = []) ∨
    ∃ newest, s.Processed newest ∧
      (∀ t, s.Processed t → t = newest ∨ t.version < newest.version) ∧
      ∀ file, s.view file = newest.diagnosticsFor file

/-- What holds of a server in every interleaving. -/
structure Sound (s : Server) : Prop where
  /-- The versions of the rebuilds are in order. -/
  rebuilds : s.rebuilds.Sound
  /-- The client can be told about every snapshot that is built. -/
  addressable : ∀ (k : Nat) (b : Rebuild) (own : Snapshot), s.rebuilds.all[k]? = some b →
    b.own? = some own → own.Addressable
  /-- A rebuild has reported only what it was given. -/
  reported : ∀ k ∈ s.reported, ∃ (version : Nat) (own given : Snapshot),
    s.rebuilds.all[k]? = some ⟨version, .published own given⟩
  /-- The publisher knows what the client shows. -/
  follows : s.publisher.Follows s.sent
  /-- The version sent last is the highest of those reported, and the client
  shows that snapshot. -/
  shows : (∀ t, ¬ s.Processed t) ∧ s.publisher.version = 0 ∧ (∀ file, s.view file = []) ∨
    ∃ newest, s.Processed newest ∧ s.publisher.version = newest.version ∧
      (∀ t, s.Processed t → t.version ≤ newest.version) ∧
      ∀ file, s.view file = newest.diagnosticsFor file

/-- What is reported has been published. -/
theorem Sound.hasPublished {s : Server} (h : s.Sound) {t : Snapshot} (ht : s.Processed t) :
    s.rebuilds.HasPublished t := by
  obtain ⟨k, -, version, own, hk⟩ := ht
  exact (h.rebuilds.published k version own t hk).2.2

/-- The client can be told about every snapshot that is published. -/
theorem Sound.addressable_of_hasPublished {s : Server} (h : s.Sound) {t : Snapshot}
    (ht : s.rebuilds.HasPublished t) : t.Addressable := by
  obtain ⟨k, version, given, hk⟩ := ht
  exact h.addressable k _ t hk rfl

/-- Before the first rebuild. -/
theorem sound_fresh (root : Path) (settings : Settings) : (fresh root settings).Sound where
  rebuilds := Rebuilds.sound_fresh root settings
  addressable := by simp [fresh, Rebuilds.fresh]
  reported := by simp [fresh]
  follows := Publisher.follows_start
  shows := Or.inl ⟨by simp [fresh, Processed], rfl, fun _ => rfl⟩

/-- What a rebuild has reported is not touched by the others. -/
theorem Sound.getElem?_advanced {s : Server} (h : s.Sound) (action : Rebuilds.Action) {k : Nat}
    (hk : k ∈ s.reported) :
    (s.rebuilds.step action).all[k]? = s.rebuilds.all[k]? := by
  obtain ⟨version, own, given, hfound⟩ := h.reported k hk
  rw [hfound]
  exact (h.rebuilds.advances (Rebuilds.step_change _ action)).returned k _ hfound rfl

/-- A step that the client does not see reports nothing. -/
theorem Sound.processed_advanced {s : Server} (h : s.Sound) (action : Rebuilds.Action)
    {t : Snapshot} :
    ({ s with rebuilds := s.rebuilds.step action } : Server).Processed t ↔ s.Processed t := by
  simp only [Processed]
  constructor
  · rintro ⟨k, hk, hfound⟩
    exact ⟨k, hk, h.getElem?_advanced action hk ▸ hfound⟩
  · rintro ⟨k, hk, hfound⟩
    exact ⟨k, hk, (h.getElem?_advanced action hk).symm ▸ hfound⟩

/-- Such a step keeps the invariant. -/
theorem Sound.advanced {s : Server} (h : s.Sound) (action : Rebuilds.Action)
    (fromDisk : ∀ which source, action = .index which source → ∃ disk, source = .disk disk) :
    Sound { s with rebuilds := s.rebuilds.step action } where
  rebuilds := h.rebuilds.change (Rebuilds.step_change _ action)
  addressable k b own hk hown := by
    rcases (Rebuilds.step_change _ action).own hk hown with
      ⟨b', hb', hown'⟩ | ⟨which, version, source, haction, hbuilt⟩
    · exact h.addressable k b' own hb' hown'
    · obtain ⟨disk, rfl⟩ := fromDisk which source haction
      exact Snapshot.addressable_of_index hbuilt
  reported k hk := by
    rw [h.getElem?_advanced action hk]
    exact h.reported k hk
  follows := h.follows
  shows := by
    simp only [h.processed_advanced action]
    exact h.shows

/-- A report adds the snapshot to those reported. -/
theorem processed_send {s : Server} {which version : Nat} {own given : Snapshot}
    (found : s.rebuilds.all[which]? = some ⟨version, .published own given⟩) {t : Snapshot} :
    (s.send which given).Processed t ↔ t = given ∨ s.Processed t := by
  simp only [Processed, send, List.mem_cons]
  constructor
  · rintro ⟨k, rfl | hk, v, own', hfound⟩
    · rw [found] at hfound
      cases hfound
      exact Or.inl rfl
    · exact Or.inr ⟨k, hk, v, own', hfound⟩
  · rintro (rfl | ⟨k, hk, hfound⟩)
    · exact ⟨which, Or.inl rfl, version, own, found⟩
    · exact ⟨k, Or.inr hk, hfound⟩

/-- A snapshot no older than the one sent last becomes the one shown. -/
theorem Sound.send_of_le {s : Server} (h : s.Sound) {which version : Nat}
    {own given : Snapshot}
    (found : s.rebuilds.all[which]? = some ⟨version, .published own given⟩)
    (hnewer : s.publisher.version ≤ given.version) :
    (s.send which given).publisher.Follows (s.send which given).sent ∧
      ∃ newest, (s.send which given).Processed newest ∧
        (s.send which given).publisher.version = newest.version ∧
        (∀ t, (s.send which given).Processed t → t.version ≤ newest.version) ∧
        ∀ file, (s.send which given).view file = newest.diagnosticsFor file := by
  have hgiven := (h.rebuilds.published which version own given found).2.2
  obtain ⟨hfollows, hview⟩ :=
    h.follows.publish (h.addressable_of_hasPublished hgiven) hnewer
  refine ⟨hfollows, given, (processed_send found).2 (Or.inl rfl), ?_, fun t ht => ?_, hview⟩
  · simp only [send, Publisher.publish_of_le hnewer]
  · rcases (processed_send found).1 ht with rfl | ht
    · exact Nat.le_refl _
    · rcases h.shows with ⟨hnone, -⟩ | ⟨newest, -, hversion, hnewest, -⟩
      · exact absurd ht (hnone t)
      · exact Nat.le_trans (hnewest t ht) (hversion ▸ hnewer)

/-- A report keeps the invariant. -/
theorem Sound.send {s : Server} (h : s.Sound) {which version : Nat} {own given : Snapshot}
    (found : s.rebuilds.all[which]? = some ⟨version, .published own given⟩) :
    (s.send which given).Sound := by
  have hreported (k : Nat) (hk : k ∈ which :: s.reported) :
      ∃ (version : Nat) (own given : Snapshot),
        s.rebuilds.all[k]? = some ⟨version, .published own given⟩ := by
    rcases List.mem_cons.1 hk with rfl | hk
    · exact ⟨version, own, given, found⟩
    · exact h.reported k hk
  rcases Nat.lt_or_ge given.version s.publisher.version with holder | hnewer
  · -- The client has something newer and is sent nothing.
    have hpublish := Publisher.publish_of_lt holder
    have hsent : (s.send which given).sent = s.sent := by
      simp only [Server.send, hpublish, List.append_nil]
    have hpublisher : (s.send which given).publisher = s.publisher := by
      simp only [Server.send, hpublish]
    refine ⟨h.rebuilds, h.addressable, hreported, by rw [hsent, hpublisher]; exact h.follows, ?_⟩
    rcases h.shows with ⟨-, hzero, -⟩ | ⟨newest, hprocessed, hversion, hnewest, hview⟩
    · omega
    · refine Or.inr ⟨newest, (processed_send found).2 (Or.inr hprocessed), ?_, fun t ht => ?_, ?_⟩
      · rw [hpublisher, hversion]
      · rcases (processed_send found).1 ht with rfl | ht
        · omega
        · exact hnewest t ht
      · simp only [view, hsent]
        exact hview
  · obtain ⟨hfollows, hshows⟩ := h.send_of_le found hnewer
    exact ⟨h.rebuilds, h.addressable, hreported, hfollows, Or.inr hshows⟩

/-- Every change keeps the invariant. -/
theorem Sound.change {s s' : Server} (h : s.Sound) (hchange : Change s s') : s'.Sound := by
  cases hchange with
  | idle => exact h
  | advanced action fromDisk => exact h.advanced action fromDisk
  | reported found => exact h.send found

/-- The invariant holds in every interleaving. -/
theorem sound_run {s : Server} (h : s.Sound) (actions : List Action) : (s.run actions).Sound := by
  induction actions generalizing s with
  | nil => exact h
  | cons action actions ih => exact ih (h.change (step_change s action))

/-! ### What the client shows -/

/-- Every rebuild has failed, or has reported. -/
def Finished (s : Server) : Prop :=
  ∀ (k : Nat) (b : Rebuild), s.rebuilds.all[k]? = some b →
    (∃ reason, b.progress = .failed reason) ∨
      k ∈ s.reported ∧ ∃ own given, b.progress = .published own given

/-- The client shows the newest of those reported. -/
theorem Sound.showsNewest {s : Server} (h : s.Sound) : s.ShowsNewest := by
  rcases h.shows with ⟨hnone, -, hview⟩ | ⟨newest, hprocessed, -, hnewest, hview⟩
  · exact Or.inl ⟨hnone, hview⟩
  · refine Or.inr ⟨newest, hprocessed, fun t ht => ?_, hview⟩
    rcases Nat.lt_or_eq_of_le (hnewest t ht) with hlt | heq
    · exact Or.inr hlt
    · exact Or.inl
        (h.rebuilds.eq_of_version (h.hasPublished ht) (h.hasPublished hprocessed) heq)

/-- Once all is done, the current snapshot has been reported: its own
rebuild was given nothing older and there is nothing newer. -/
theorem Sound.processed_current {s : Server} (h : s.Sound) (hfinished : s.Finished)
    (hsome : ∃ t, s.rebuilds.HasPublished t) : s.Processed s.rebuilds.workspace.current := by
  have hcurrent : s.rebuilds.HasPublished s.rebuilds.workspace.current := by
    rcases h.rebuilds.newest with ⟨hnone, -⟩ | ⟨hcurrent, -⟩
    · obtain ⟨t, ht⟩ := hsome
      exact absurd ht (hnone t)
    · exact hcurrent
  obtain ⟨k, version, given, hk⟩ := id hcurrent
  obtain ⟨hversion, hgiven, hpublished⟩ := h.rebuilds.published k version _ given hk
  have hsame : given = s.rebuilds.workspace.current := by
    refine h.rebuilds.eq_of_version hpublished hcurrent (Nat.le_antisymm ?_ ?_)
    · exact h.rebuilds.version_le hpublished
    · rw [hversion]
      exact hgiven
  rcases hfinished k _ hk with ⟨reason, hfailed⟩ | ⟨hreported, -⟩
  · cases hfailed
  · exact ⟨k, hreported, version, _, hsame ▸ hk⟩

/-- Once all is done, the client shows the current snapshot. -/
theorem Sound.view_of_finished {s : Server} (h : s.Sound) (hfinished : s.Finished)
    (hsome : ∃ t, s.rebuilds.HasPublished t) (file : Path) :
    s.view file = s.rebuilds.workspace.current.diagnosticsFor file := by
  have hcurrent := h.processed_current hfinished hsome
  rcases h.showsNewest with ⟨hnone, -⟩ | ⟨newest, hprocessed, hnewest, hview⟩
  · exact absurd hcurrent (hnone _)
  · rcases hnewest _ hcurrent with heq | hlt
    · rw [heq, hview]
    · have hle := h.rebuilds.version_le (h.hasPublished hprocessed)
      omega

/-! ### One rebuild at a time -/

/-- A rebuild that has returned a snapshot reports it. -/
theorem step_report_of_ok {s : Server} {which : Nat} {given : Snapshot}
    (hresult : (s.rebuilds.all[which]?).bind Rebuild.result? = some (.ok given))
    (hnew : which ∉ s.reported) : s.step (.report which) = s.send which given := by
  obtain ⟨⟨version, progress⟩, hfound, hgiven⟩ := Option.bind_eq_some_iff.1 hresult
  cases progress with
  | published own given' =>
      cases hgiven
      simp only [step, hfound, if_neg hnew]
  | started => cases hgiven
  | failed reason => cases hgiven
  | indexed own => cases hgiven

/-- A rebuild that has failed reports nothing. -/
theorem step_report_of_error {s : Server} {which : Nat} {reason : IndexError}
    (hresult : (s.rebuilds.all[which]?).bind Rebuild.result? = some (.error reason)) :
    s.step (.report which) = s := by
  obtain ⟨⟨version, progress⟩, hfound, hreason⟩ := Option.bind_eq_some_iff.1 hresult
  cases progress with
  | failed reason' => simp only [step, hfound]
  | started => cases hreason
  | indexed own => cases hreason
  | published own given => cases hreason

/-- A session does to its workspace, to its publisher and to the client what
the steps of one rebuild in a row do. -/
def ActsAs (s : Server) (session : Session) (host : Host) : Prop :=
  (session.rebuild host).2.workspace = some (s.alone host.disk).rebuilds.workspace ∧
    (session.rebuild host).2.publisher = (s.alone host.disk).publisher ∧
    ∃ reports, (s.alone host.disk).sent = s.sent ++ reports ∧
      ((session.rebuild host).1 = Session.messagesOf reports ∨
        reports = [] ∧ ∃ text, (session.rebuild host).1 = [.failure text])

/-- A rebuild whose steps nobody comes between is `Session.rebuild`. -/
theorem Sound.actsAs {s : Server} (h : s.Sound) {session : Session} (host : Host)
    (hworkspace : session.workspace = some s.rebuilds.workspace)
    (hpublisher : session.publisher = s.publisher) : s.ActsAs session host := by
  have hnew : s.rebuilds.all.length ∉ s.reported := by
    intro hmem
    obtain ⟨version, own, given, hfound⟩ := h.reported _ hmem
    rw [List.getElem?_eq_none (Nat.le_refl _)] at hfound
    cases hfound
  obtain ⟨hafter, hresult⟩ := s.rebuilds.alone_eq_rebuild (.disk host.disk)
  have halone : s.alone host.disk
      = step { s with rebuilds := s.rebuilds.alone (.disk host.disk) }
          (.report s.rebuilds.all.length) := rfl
  cases hrebuild : s.rebuilds.workspace.rebuild (.disk host.disk) with
  | mk result workspace =>
      rw [hrebuild] at hafter hresult
      cases result with
      | error reason =>
          rw [step_report_of_error hresult] at halone
          simp only [ActsAs, halone, Session.rebuild, Host.rebuild, hworkspace, hrebuild]
          refine ⟨by rw [hafter], hpublisher, [], (List.append_nil _).symm, ?_⟩
          exact Or.inr ⟨rfl, _, rfl⟩
      | ok given =>
          rw [step_report_of_ok
            (s := { s with rebuilds := s.rebuilds.alone (.disk host.disk) }) hresult hnew] at halone
          simp only [ActsAs, halone, Server.send, Session.rebuild, Host.rebuild, hworkspace,
            hrebuild, hpublisher]
          exact ⟨by rw [hafter], trivial, _, rfl, Or.inl rfl⟩

/-- What holds of the client of a server. -/
structure Faithful (s : Server) : Prop where
  /-- It shows the newest snapshot reported so far. -/
  view : s.ShowsNewest
  /-- The publisher knows exactly the files that it shows problems for. -/
  published : ∀ file, file ∈ s.publisher.published ↔ s.view file ≠ []
  /-- Once every rebuild is done, it shows the current snapshot. -/
  settled : s.Finished → (∃ t, s.rebuilds.HasPublished t) →
    ∀ file, s.view file = s.rebuilds.workspace.current.diagnosticsFor file
  /-- The steps of one rebuild in a row are `Session.rebuild`. -/
  rebuild : ∀ (session : Session) (host : Host),
    session.workspace = some s.rebuilds.workspace → session.publisher = s.publisher →
      s.ActsAs session host

end Server

end DefIndex
