import TcpStats.Device.Accounting

/-!
# Who is turned away

Whether an open or a read is turned away is settled at its fetch-and-add, by what the
counter was. The counter also counts those who were turned away before and have not undone
their increment: when they make up what is missing to the limit, a caller is turned away
although there is room, and only then (`refusals_earned_iff`).
-/

namespace TcpStats

open Transition

variable {Cred : Type}

/-- The two limits. -/
inductive Limit where
  /-- `tcpstats_max_open_fds`, with `EMFILE`. -/
  | openFds
  /-- `tcpstats_max_concurrent_readers`, with `EBUSY`. -/
  | readers
  deriving DecidableEq

def Limit.value (tun : Tunables) : Limit → UInt32
  | openFds => tun.maxOpenFds
  | readers => tun.maxConcurrentReaders

/-- The open has been let in, and what became of it then. -/
def OpenPc.passed (limit : UInt32) : OpenPc → Bool
  | counted old => old < limit
  | allocating | failing _ | registered | returned _ => true
  | entered | refusing | refused => false

/-- The read has been let in, and what became of it then. -/
def ReadPc.passed (limit : UInt32) : ReadPc → Bool
  | counted old => old < limit
  | admitted | reading | leaving _ | returned _ => true
  | entered | counting | refusing | refused => false

namespace DevSystem

/-- The gate a limit is for. -/
def gate (tun : Tunables) (s : DevSystem Cred) : Limit → Gate
  | .openFds => s.fdGate tun
  | .readers => s.readGate tun

/-- The event is the fetch-and-add of a call. -/
def Fetches (s : DevSystem Cred) (e : DevEvent Cred) : Limit → ℕ → Prop
  | .openFds, i => ∃ cdevpriv c, e = .openGo i cdevpriv ∧ s.opens[i]? = some c ∧ c.pc = .entered ∧ c.fwrite = false
  | .readers, i => ∃ now error c fd, e = .readGo i now error ∧ s.reads[i]? = some c ∧
      s.fds[c.fd]? = some fd ∧ c.pc = .counting

/-- The call is turned away: its error is returned, or will be. -/
def TurnedAway (s : DevSystem Cred) : Limit → ℕ → Prop
  | .openFds, i => ∃ c, s.opens[i]? = some c ∧ (c.pc = .refusing ∨ c.pc = .refused)
  | .readers, i => ∃ c, s.reads[i]? = some c ∧ (c.pc = .refusing ∨ c.pc = .refused)

/-- The call that increments the counter now is turned away, whatever follows, only if as many as the
limit says are inside now. -/
def Earned (tun : Tunables) (s : DevSystem Cred) (e : DevEvent Cred) (lim : Limit) (i : ℕ) : Prop :=
  ∀ s₁ post s', DevStep tun s e s₁ → Run (DevStep tun) s₁ post s' → s'.TurnedAway lim i →
    (lim.value tun).toNat ≤ (s.gate tun lim).inside

variable {tun : Tunables} {s s' : DevSystem Cred} {e : DevEvent Cred}

/-! ### Those who are let in -/

/-- An element of a list of which one is replaced. -/
theorem getElem?_set_keep {α : Type} {P : α → Prop} {l : List α} {i j : ℕ} {y : α}
    (h : ∃ x, l[i]? = some x ∧ P x) (hy : j = i → P y) : ∃ x, (l.set j y)[i]? = some x ∧ P x := by
  obtain ⟨x, hx, hP⟩ := h
  rw [List.getElem?_set]
  by_cases hji : j = i
  · have hlt : j < l.length := hji ▸ (List.getElem?_eq_some_iff.mp hx).1
    exact ⟨y, by rw [if_pos hji, if_pos hlt], hy hji⟩
  · exact ⟨x, by rw [if_neg hji, hx], hP⟩

/-- Two facts about the element at a place are about one element. -/
theorem getElem?_both {α : Type} {P Q : α → Prop} {l : List α} {i : ℕ} (h : ∃ x, l[i]? = some x ∧ P x)
    (h' : ∃ x, l[i]? = some x ∧ Q x) : ∃ x, P x ∧ Q x := by
  obtain ⟨x, hx, hP⟩ := h
  obtain ⟨y, hy, hQ⟩ := h'
  obtain rfl := Option.some.inj (hx.symm.trans hy)
  exact ⟨x, hP, hQ⟩

theorem getElem?_append_keep {α : Type} {P : α → Prop} {l : List α} {i : ℕ} (m : List α)
    (h : ∃ x, l[i]? = some x ∧ P x) : ∃ x, (l ++ m)[i]? = some x ∧ P x := by
  obtain ⟨x, hx, hP⟩ := h
  have hlt : i < l.length := (List.getElem?_eq_some_iff.mp hx).1
  exact ⟨x, by rw [List.getElem?_append_left hlt, hx], hP⟩

/-- An open that has been let in goes on as one. -/
theorem openGo_passed {i : ℕ} {c : OpenCall Cred} {cdevpriv : Option Errno}
    (h : s.openGo tun i c cdevpriv = some s') :
    s'.reads = s.reads ∧ ∃ pc, s'.opens = s.opens.set i { c with pc } ∧
      (c.pc.passed tun.maxOpenFds = true → pc.passed tun.maxOpenFds = true) := by
  cases openGo_move h with
  | deny hpc hs => exact ⟨by rw [hs]; rfl, _, by rw [hs]; rfl, by rw [hpc]; exact nofun⟩
  | count hpc hs => exact ⟨by rw [hs]; rfl, _, by rw [hs]; rfl, by rw [hpc]; exact nofun⟩
  | refuse old hpc hle hs =>
    refine ⟨by rw [hs]; rfl, _, by rw [hs]; rfl, fun hlt => ?_⟩
    rw [hpc] at hlt
    exact absurd (decide_eq_true_eq.mp hlt) (UInt32.not_lt.mpr hle)
  | letIn old _ _ hs => exact ⟨by rw [hs]; rfl, _, by rw [hs]; rfl, fun _ => rfl⟩
  | undo hpc hs => exact ⟨by rw [hs]; rfl, _, by rw [hs]; rfl, by rw [hpc]; exact nofun⟩
  | fail e _ hs => exact ⟨by rw [hs]; rfl, _, by rw [hs]; rfl, fun _ => rfl⟩
  | register _ hs => exact ⟨by rw [hs]; rfl, _, by rw [hs]; rfl, fun _ => rfl⟩
  | giveBack e _ hs => exact ⟨by rw [hs]; rfl, _, by rw [hs]; rfl, fun _ => rfl⟩
  | finish _ hs => exact ⟨by rw [hs]; rfl, _, by rw [hs]; rfl, fun _ => rfl⟩

theorem readGo_passed {i : ℕ} {c : ReadCall} {fd : Fd Cred} {now : Sbintime} {error : Option Errno}
    (h : s.readGo tun i c fd now error = some s') :
    s'.opens = s.opens ∧ ∃ pc, s'.reads = s.reads.set i { c with pc } ∧
      (c.pc.passed tun.maxConcurrentReaders = true → pc.passed tun.maxConcurrentReaders = true) := by
  cases readGo_move h with
  | skip hpc hs => exact ⟨by rw [hs]; rfl, _, by rw [hs]; rfl, by rw [hpc]; exact nofun⟩
  | enter hpc hs => exact ⟨by rw [hs]; rfl, _, by rw [hs]; rfl, by rw [hpc]; exact nofun⟩
  | count hpc hs => exact ⟨by rw [hs]; rfl, _, by rw [hs]; rfl, by rw [hpc]; exact nofun⟩
  | refuse old hpc hle hs =>
    refine ⟨by rw [hs]; rfl, _, by rw [hs]; rfl, fun hlt => ?_⟩
    rw [hpc] at hlt
    exact absurd (decide_eq_true_eq.mp hlt) (UInt32.not_lt.mpr hle)
  | letIn old _ _ hs => exact ⟨by rw [hs]; rfl, _, by rw [hs]; rfl, fun _ => rfl⟩
  | undo hpc hs => exact ⟨by rw [hs]; rfl, _, by rw [hs]; rfl, by rw [hpc]; exact nofun⟩
  | throttle _ hs => exact ⟨by rw [hs]; rfl, _, by rw [hs]; rfl, fun _ => rfl⟩
  | start now _ hs => exact ⟨by rw [hs]; rfl, _, by rw [hs]; rfl, fun _ => rfl⟩
  | stop error _ hs => exact ⟨by rw [hs]; rfl, _, by rw [hs]; rfl, fun _ => rfl⟩
  | leave error _ hs => exact ⟨by rw [hs]; rfl, _, by rw [hs]; rfl, fun _ => rfl⟩

/-- The call has been let in. -/
def Passed (tun : Tunables) (s : DevSystem Cred) : Limit → ℕ → Prop
  | .openFds, i => ∃ c, s.opens[i]? = some c ∧ c.pc.passed tun.maxOpenFds = true
  | .readers, i => ∃ c, s.reads[i]? = some c ∧ c.pc.passed tun.maxConcurrentReaders = true

theorem Passed.step {lim : Limit} {i : ℕ} (h : s.Passed tun lim i) (hstep : DevStep tun s e s') :
    s'.Passed tun lim i := by
  unfold DevStep devStep at hstep
  cases e with
  | openDev via fwrite cred =>
    obtain rfl := Option.some.inj hstep
    cases lim with
    | openFds => exact getElem?_append_keep _ h
    | readers => exact h
  | openGo j cdevpriv =>
    obtain ⟨c, hc, hgo⟩ := Option.bind_eq_some_iff.mp hstep
    obtain ⟨hreads, pc, hopens, hpassed⟩ := openGo_passed hgo
    cases lim with
    | openFds =>
      show ∃ c, s'.opens[i]? = some c ∧ _
      rw [hopens]
      refine getElem?_set_keep h ?_
      rintro rfl
      obtain ⟨c', hc', hold⟩ := h
      obtain rfl := Option.some.inj (hc.symm.trans hc')
      exact hpassed hold
    | readers =>
      show ∃ c, s'.reads[i]? = some c ∧ _
      rw [hreads]
      exact h
  | close j =>
    obtain ⟨fd, -, hgo⟩ := Option.bind_eq_some_iff.mp hstep
    split_ifs at hgo
    obtain rfl := Option.some.inj hgo
    cases lim with
    | openFds => exact h
    | readers => exact h
  | dtorGo j =>
    obtain ⟨fd, -, hgo⟩ := Option.bind_eq_some_iff.mp hstep
    split_ifs at hgo
    obtain rfl := Option.some.inj hgo
    cases lim with
    | openFds => exact h
    | readers => exact h
  | read fd =>
    dsimp only at hstep
    split_ifs at hstep
    obtain rfl := Option.some.inj hstep
    cases lim with
    | openFds => exact h
    | readers => exact getElem?_append_keep _ h
  | readGo j now error =>
    obtain ⟨c, hc, hgo⟩ := Option.bind_eq_some_iff.mp hstep
    obtain ⟨fd, -, hgo⟩ := Option.bind_eq_some_iff.mp hgo
    obtain ⟨hopens, pc, hreads, hpassed⟩ := readGo_passed hgo
    cases lim with
    | openFds =>
      show ∃ c, s'.opens[i]? = some c ∧ _
      rw [hopens]
      exact h
    | readers =>
      show ∃ c, s'.reads[i]? = some c ∧ _
      rw [hreads]
      refine getElem?_set_keep h ?_
      rintro rfl
      obtain ⟨c', hc', hold⟩ := h
      obtain rfl := Option.some.inj (hc.symm.trans hc')
      exact hpassed hold

/-- Who is let in is never turned away. -/
theorem Passed.not_turnedAway {lim : Limit} {i : ℕ} (h : s.Passed tun lim i) : ¬ s.TurnedAway lim i := by
  rintro haway
  cases lim with
  | openFds =>
    obtain ⟨c, hpassed, hpc | hpc⟩ := getElem?_both h haway
    · rw [hpc] at hpassed
      cases hpassed
    · rw [hpc] at hpassed
      cases hpassed
  | readers =>
    obtain ⟨c, hpassed, hpc | hpc⟩ := getElem?_both h haway
    · rw [hpc] at hpassed
      cases hpassed
    · rw [hpc] at hpassed
      cases hpassed

/-! ### What the fetch-and-add settles -/

/-- Where the counter is below the limit, the call is let in. -/
theorem Fetches.passed {lim : Limit} {i : ℕ} (h : s.Fetches e lim i)
    (hlt : (s.gate tun lim).counter < (lim.value tun).toNat) (hstep : DevStep tun s e s') :
    s'.Passed tun lim i := by
  unfold DevStep devStep at hstep
  cases lim with
  | openFds =>
    obtain ⟨cdevpriv, c, rfl, hc, hpc, hfwrite⟩ := h
    simp only [hc, Option.bind_some, openGo, hpc, hfwrite] at hstep
    obtain rfl := Option.some.inj hstep
    have hlt : s.glob.activeFds < tun.maxOpenFds := UInt32.lt_iff_toNat_lt.mpr hlt
    exact ⟨_, List.getElem?_set_self (List.getElem?_eq_some_iff.mp hc).1, by simpa [OpenPc.passed] using hlt⟩
  | readers =>
    obtain ⟨now, error, c, fd, rfl, hc, hfd, hpc⟩ := h
    simp only [hc, hfd, Option.bind_some, readGo, hpc] at hstep
    obtain rfl := Option.some.inj hstep
    have hlt : s.glob.activeReaders < tun.maxConcurrentReaders := UInt32.lt_iff_toNat_lt.mpr hlt
    exact ⟨_, List.getElem?_set_self (List.getElem?_eq_some_iff.mp hc).1, by simpa [ReadPc.passed] using hlt⟩

/-- Where it is not, the call is turned away by its next step. -/
theorem Fetches.turnedAway {lim : Limit} {i : ℕ} (h : s.Fetches e lim i)
    (hle : (lim.value tun).toNat ≤ (s.gate tun lim).counter) :
    ∃ s₁ s₂, DevStep tun s e s₁ ∧ DevStep tun s₁ e s₂ ∧ s₂.TurnedAway lim i := by
  cases lim with
  | openFds =>
    obtain ⟨cdevpriv, c, rfl, hc, hpc, hfwrite⟩ := h
    have hle : tun.maxOpenFds ≤ s.glob.activeFds := UInt32.le_iff_toNat_le.mpr hle
    have hi : i < s.opens.length := (List.getElem?_eq_some_iff.mp hc).1
    let c₁ : OpenCall Cred := { c with pc := .counted s.glob.activeFds }
    let s₁ : DevSystem Cred := s.addFd.openTo i c (.counted s.glob.activeFds)
    have hc₁ : s₁.opens[i]? = some c₁ := List.getElem?_set_self hi
    refine ⟨s₁, s₁.openTo i c₁ .refusing, ?_, ?_, { c with pc := .refusing }, ?_, .inl rfl⟩
    · exact Option.bind_eq_some_iff.mpr ⟨c, hc, by simp only [openGo, hpc, hfwrite]; rfl⟩
    · exact Option.bind_eq_some_iff.mpr ⟨c₁, hc₁, congrArg some (by rw [if_pos hle])⟩
    · exact List.getElem?_set_self (List.getElem?_eq_some_iff.mp hc₁).1
  | readers =>
    obtain ⟨now, error, c, fd, rfl, hc, hfd, hpc⟩ := h
    have hle : tun.maxConcurrentReaders ≤ s.glob.activeReaders := UInt32.le_iff_toNat_le.mpr hle
    have hi : i < s.reads.length := (List.getElem?_eq_some_iff.mp hc).1
    let c₁ : ReadCall := { c with pc := .counted s.glob.activeReaders }
    let s₁ : DevSystem Cred := s.addReader.readTo i c (.counted s.glob.activeReaders)
    have hc₁ : s₁.reads[i]? = some c₁ := List.getElem?_set_self hi
    refine ⟨s₁, s₁.readTo i c₁ .refusing, ?_, ?_, { c with pc := .refusing }, ?_, .inl rfl⟩
    · refine Option.bind_eq_some_iff.mpr ⟨c, hc, Option.bind_eq_some_iff.mpr ⟨fd, hfd, ?_⟩⟩
      simp only [readGo, hpc]
      rfl
    · refine Option.bind_eq_some_iff.mpr ⟨c₁, hc₁, Option.bind_eq_some_iff.mpr ⟨fd, hfd, congrArg some ?_⟩⟩
      rw [if_pos hle]
    · exact List.getElem?_set_self (List.getElem?_eq_some_iff.mp hc₁).1

theorem earned_iff (lim : Limit) {i : ℕ} (hcounted : (s.gate tun lim).Counted (2 ^ 32))
    (h : s.Fetches e lim i) :
    s.Earned tun e lim i ↔ ¬ (s.gate tun lim).Crowded (2 ^ 32) (lim.value tun).toNat := by
  rw [← hcounted.turned_away_iff]
  constructor
  · intro hearned hle
    obtain ⟨s₁, s₂, hstep, hnext, haway⟩ := h.turnedAway hle
    exact hearned s₁ [e] s₂ hstep (.single hnext) haway
  · intro hfull s₁ post s' hstep run haway
    by_contra hroom
    have hlt : (s.gate tun lim).counter < (lim.value tun).toNat := not_le.mp fun hle => hroom (hfull hle)
    have hpassed : s'.Passed tun lim i :=
      run.inv (I := fun s => s.Passed tun lim i) (h.passed hlt hstep) fun _ _ _ hI hstep => hI.step hstep
    exact hpassed.not_turnedAway haway

/-- In any interleaving, no call is turned away while fewer are inside than the limit says, exactly if
none has its fetch-and-add while those inside and those turned away before are together as many as the
limit says, and those inside alone are not. -/
theorem refusals_earned_iff (tun : Tunables) (es : List (DevEvent Cred)) :
    (∀ pre e s lim i, pre ++ [e] <+: es → Run (DevStep tun) init pre s → s.Fetches e lim i →
        s.Earned tun e lim i) ↔
      ∀ pre e s lim i, pre ++ [e] <+: es → Run (DevStep tun) init pre s → s.Fetches e lim i →
        ¬ (s.gate tun lim).Crowded (2 ^ 32) (lim.value tun).toNat := by
  have hone : ∀ {pre e lim i} {s : DevSystem Cred}, Run (DevStep tun) init pre s → s.Fetches e lim i →
      (s.Earned tun e lim i ↔ ¬ (s.gate tun lim).Crowded (2 ^ 32) (lim.value tun).toNat) := by
    intro pre e lim i s run hfetch
    obtain ⟨hfds, hreads⟩ := counted_of_run run
    cases lim with
    | openFds => exact earned_iff .openFds hfds hfetch
    | readers => exact earned_iff .readers hreads hfetch
  constructor
  · intro h pre e s lim i hpre run hfetch
    exact (hone run hfetch).mp (h pre e s lim i hpre run hfetch)
  · intro h pre e s lim i hpre run hfetch
    exact (hone run hfetch).mpr (h pre e s lim i hpre run hfetch)

/-! ### Three callers at a limit of one -/

/-- The limits set to one. -/
def one : Tunables := { Tunables.default with maxOpenFds := 1, maxConcurrentReaders := 1 }

/-- One open is admitted, a second one turned away, and before it undoes its increment the descriptor
of the first one is closed and a third open begins. -/
def threeOpens : List (DevEvent ℕ) :=
  .openDev (.static .tcpstats) false 0 :: List.replicate 4 (.openGo 0 none) ++
    [.openDev (.static .tcpstats) false 0, .openGo 1 none, .close 0, .dtorGo 0,
      .openDev (.static .tcpstats) false 0]

/-- The same with three reads of one descriptor. -/
def threeReads : List (DevEvent ℕ) :=
  .openDev (.static .tcpstats) false 0 :: List.replicate 4 (.openGo 0 none) ++
    [.read 0, .read 0, .read 0, .readGo 0 0 none, .readGo 1 0 none, .readGo 2 0 none, .readGo 0 0 none,
      .readGo 1 0 none, .readGo 0 0 none, .readGo 0 0 none, .readGo 0 0 none, .readGo 0 0 none]

/-- `EMFILE` with no descriptor open, and `EBUSY` with no read under way. -/
theorem refused_with_room :
    (∃ s s' : DevSystem ℕ, Run (DevStep one) init threeOpens s ∧ s.Fetches (.openGo 2 none) .openFds 2 ∧
      s.fdsInside one = 0 ∧ Run (DevStep one) s (List.replicate 3 (.openGo 2 none)) s' ∧
      (s'.opens[2]?).map OpenCall.pc = some .refused) ∧
    ∃ s s' : DevSystem ℕ, Run (DevStep one) init threeReads s ∧ s.Fetches (.readGo 2 0 none) .readers 2 ∧
      s.readsInside one = 0 ∧ Run (DevStep one) s (List.replicate 3 (.readGo 2 0 none)) s' ∧
      (s'.reads[2]?).map ReadCall.pc = some .refused := by
  constructor
  · have hrun : (replay (devStep one) threeOpens init).any (fun s =>
        (s.opens[2]?).any (fun c => c.pc = .entered && !c.fwrite) && s.fdsInside one = 0 &&
          (replay (devStep one) (List.replicate 3 (.openGo 2 none)) s).any fun s' =>
            (s'.opens[2]?).map OpenCall.pc = some .refused) = true := by
      decide +kernel
    obtain ⟨s, hs, h⟩ := (Option.any_eq_true _ _).mp hrun
    simp only [Bool.and_eq_true, decide_eq_true_eq] at h
    obtain ⟨⟨hfetch, hinside⟩, hrest⟩ := h
    obtain ⟨c, hc, hpc⟩ := (Option.any_eq_true _ _).mp hfetch
    simp only [Bool.and_eq_true, decide_eq_true_eq, Bool.not_eq_true'] at hpc
    obtain ⟨s', hs', haway⟩ := (Option.any_eq_true _ _).mp hrest
    exact ⟨s, s', replay_run (fun _ _ _ h => h) hs, ⟨none, c, rfl, hc, hpc⟩, hinside,
      replay_run (fun _ _ _ h => h) hs', decide_eq_true_eq.mp haway⟩
  · have hrun : (replay (devStep one) threeReads init).any (fun s =>
        (s.reads[2]?).any (fun c => c.pc = .counting && (s.fds[c.fd]?).isSome) && s.readsInside one = 0 &&
          (replay (devStep one) (List.replicate 3 (.readGo 2 0 none)) s).any fun s' =>
            (s'.reads[2]?).map ReadCall.pc = some .refused) = true := by
      decide +kernel
    obtain ⟨s, hs, h⟩ := (Option.any_eq_true _ _).mp hrun
    simp only [Bool.and_eq_true, decide_eq_true_eq] at h
    obtain ⟨⟨hfetch, hinside⟩, hrest⟩ := h
    obtain ⟨c, hc, hpc⟩ := (Option.any_eq_true _ _).mp hfetch
    simp only [Bool.and_eq_true, decide_eq_true_eq] at hpc
    obtain ⟨fd, hfd⟩ := Option.isSome_iff_exists.mp hpc.2
    obtain ⟨s', hs', haway⟩ := (Option.any_eq_true _ _).mp hrest
    exact ⟨s, s', replay_run (fun _ _ _ h => h) hs, ⟨0, none, c, fd, rfl, hc, hfd, hpc.1⟩, hinside,
      replay_run (fun _ _ _ h => h) hs', decide_eq_true_eq.mp haway⟩

end DevSystem

end TcpStats
