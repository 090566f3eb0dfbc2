import TcpStats.Device.Callers
import TcpStats.Lib.Run

/-!
# What the counters count

`tcpstats_active_fds` counts the registered descriptors and the opens between their
increment and their decrement or registration, `tcpstats_active_readers` the reads between
their increment and their decrement: always modulo 2^32 (`counted_of_run`), exactly as long
as there are fewer of them than that (`accounting`), and then the limits are kept.
-/

namespace TcpStats

open Transition

variable {Cred : Type}

/-! ### The numbers -/

/-- The open stands between its increment and its decrement, or the registration. -/
def OpenPc.between : OpenPc → Bool
  | counted _ | refusing | allocating | failing _ => true
  | entered | refused | registered | returned _ => false

/-- The read stands between its increment and its decrement. -/
def ReadPc.between : ReadPc → Bool
  | counted _ | refusing | admitted | reading | leaving _ => true
  | entered | counting | refused | returned _ => false

/-- The open has returned. -/
def OpenPc.done : OpenPc → Bool
  | refused | returned _ => true
  | entered | counted _ | refusing | allocating | failing _ | registered => false

/-- What an open that has returned gives its caller: none for 0. -/
def OpenPc.result : OpenPc → Option (Option Errno)
  | refused => some (some .EMFILE)
  | returned error => some error
  | entered | counted _ | refusing | allocating | failing _ | registered => none

/-- The read has returned. -/
def ReadPc.done : ReadPc → Bool
  | refused | returned _ => true
  | entered | counting | counted _ | refusing | admitted | reading | leaving _ => false

theorem OpenPc.not_between {pc : OpenPc} (h : pc.done = true) : pc.between = false := by
  cases pc with
  | refused => rfl
  | returned error => rfl
  | _ => cases h

theorem ReadPc.not_between {pc : ReadPc} (h : pc.done = true) : pc.between = false := by
  cases pc with
  | refused => rfl
  | returned error => rfl
  | _ => cases h

/-- A caller that is counted has either been let in or turned away. -/
theorem OpenPc.between_toNat (limit : UInt32) (pc : OpenPc) :
    pc.between.toNat = (pc.inside limit).toNat + (pc.away limit).toNat := by
  cases pc with
  | counted old =>
    by_cases hlt : old < limit
    · simp [between, inside, away, hlt, UInt32.not_le.mpr hlt]
    · simp [between, inside, away, hlt, UInt32.not_lt.mp hlt]
  | _ => rfl

theorem ReadPc.between_toNat (limit : UInt32) (pc : ReadPc) :
    pc.between.toNat = (pc.inside limit).toNat + (pc.away limit).toNat := by
  cases pc with
  | counted old =>
    by_cases hlt : old < limit
    · simp [between, inside, away, hlt, UInt32.not_le.mpr hlt]
    · simp [between, inside, away, hlt, UInt32.not_lt.mp hlt]
  | _ => rfl

namespace DevSystem

/-- The descriptors that are registered, until their destructor's decrement. -/
def registered (s : DevSystem Cred) : ℕ := s.fds.countP (·.stage.counted)

/-- The opens between their increment and their decrement, or the registration. -/
def opening (s : DevSystem Cred) : ℕ := s.opens.countP (·.pc.between)

/-- The reads between their increment and their decrement. -/
def reading (s : DevSystem Cred) : ℕ := s.reads.countP (·.pc.between)

/-- Everything is closed and finished. -/
structure Finished (s : DevSystem Cred) : Prop where
  opens : ∀ c ∈ s.opens, c.pc.done = true
  fds : ∀ fd ∈ s.fds, fd.stage = .closed
  reads : ∀ c ∈ s.reads, c.pc.done = true

/-- There are fewer of them than an `u_int` can count. -/
def Few (s : DevSystem Cred) : Prop := s.registered + s.opening < 2 ^ 32 ∧ s.reading < 2 ^ 32

/-- A step to a state with few of them. -/
def FewStep (tun : Tunables) (s : DevSystem Cred) (e : DevEvent Cred) (s' : DevSystem Cred) : Prop :=
  DevStep tun s e s' ∧ s'.Few

/-- The counters are exact, and the limits are kept. -/
structure Accounted (tun : Tunables) (s : DevSystem Cred) : Prop where
  fds : s.glob.activeFds.toNat = s.registered + s.opening
  readers : s.glob.activeReaders.toNat = s.reading
  fdLimit : s.fdsInside tun ≤ tun.maxOpenFds.toNat
  readLimit : s.readsInside tun ≤ tun.maxConcurrentReaders.toNat

variable {tun : Tunables} {s s' : DevSystem Cred} {e : DevEvent Cred}

theorem countP_split {α : Type} {p q r : α → Bool} (h : ∀ x, (p x).toNat = (q x).toNat + (r x).toNat)
    (l : List α) : l.countP p = l.countP q + l.countP r := by
  have hone : ∀ b : Bool, (if b = true then 1 else 0) = b.toNat := fun b => by cases b <;> rfl
  induction l with
  | nil => rfl
  | cons x l ih =>
    have := h x
    simp only [List.countP_cons, hone]
    omega

theorem fdGate_total (tun : Tunables) (s : DevSystem Cred) :
    (s.fdGate tun).total = s.registered + s.opening := by
  have hsplit := countP_split (fun c : OpenCall Cred => c.pc.between_toNat tun.maxOpenFds) s.opens
  show s.opens.countP _ + s.fds.countP _ + s.opens.countP _ = s.fds.countP _ + s.opens.countP _
  rw [hsplit]
  omega

theorem readGate_total (tun : Tunables) (s : DevSystem Cred) : (s.readGate tun).total = s.reading :=
  (countP_split (fun c : ReadCall => c.pc.between_toNat tun.maxConcurrentReaders) s.reads).symm

/-- Whatever the callers do, the counters are right modulo 2^32. -/
theorem counted_of_run {es : List (DevEvent Cred)} (run : Run (DevStep tun) init es s) :
    (s.fdGate tun).Counted (2 ^ 32) ∧ (s.readGate tun).Counted (2 ^ 32) := by
  refine run.inv (I := fun s => (s.fdGate tun).Counted (2 ^ 32) ∧ (s.readGate tun).Counted (2 ^ 32))
    ⟨rfl, rfl⟩ ?_
  rintro u e v ⟨hfds, hreads⟩ hstep
  constructor
  · rcases fdGate_step hstep with hsame | hgate
    · rw [hsame]
      exact hfds
    · exact hfds.step (by decide) hgate
  · rcases readGate_step hstep with hsame | hgate
    · rw [hsame]
      exact hreads
    · exact hreads.step (by decide) hgate

/-- Where there are never too many to count, the gates are exact. -/
theorem exact_of_run {es : List (DevEvent Cred)} (run : Run (FewStep tun) init es s) :
    (s.fdGate tun).Exact tun.maxOpenFds.toNat ∧ (s.readGate tun).Exact tun.maxConcurrentReaders.toNat := by
  refine run.inv (I := fun s => (s.fdGate tun).Exact tun.maxOpenFds.toNat ∧
    (s.readGate tun).Exact tun.maxConcurrentReaders.toNat)
    ⟨⟨rfl, Nat.zero_le _⟩, ⟨rfl, Nat.zero_le _⟩⟩ ?_
  rintro u e v ⟨hfds, hreads⟩ ⟨hstep, hfew, hfewReads⟩
  constructor
  · rcases fdGate_step hstep with hsame | hgate
    · rw [hsame]
      exact hfds
    · exact hfds.step (by rw [fdGate_total]; exact hfew) hgate
  · rcases readGate_step hstep with hsame | hgate
    · rw [hsame]
      exact hreads
    · exact hreads.step (by rw [readGate_total]; exact hfewReads) hgate

theorem Finished.counts (h : s.Finished) : s.registered + s.opening = 0 ∧ s.reading = 0 := by
  have hfds : s.registered = 0 := List.countP_eq_zero.mpr fun fd hfd => by rw [h.fds fd hfd]; decide
  have hopens : s.opening = 0 :=
    List.countP_eq_zero.mpr fun c hc => by rw [OpenPc.not_between (h.opens c hc)]; decide
  have hreads : s.reading = 0 :=
    List.countP_eq_zero.mpr fun c hc => by rw [ReadPc.not_between (h.reads c hc)]; decide
  exact ⟨by rw [hfds, hopens], hreads⟩

/-- As long as there are fewer than 2^32 of them, the counters are what they should be, at most as many
as the limits say are let in, no step takes a counter below zero or round, and both are zero when all is
over. -/
theorem accounting {es : List (DevEvent Cred)} (run : Run (FewStep tun) init es s) :
    s.Accounted tun ∧
      (∀ e s', FewStep tun s e s' →
        s.glob.activeFds.toNat ≤ s'.glob.activeFds.toNat + 1 ∧
        s'.glob.activeFds.toNat ≤ s.glob.activeFds.toNat + 1 ∧
        s.glob.activeReaders.toNat ≤ s'.glob.activeReaders.toNat + 1 ∧
        s'.glob.activeReaders.toNat ≤ s.glob.activeReaders.toNat + 1) ∧
      (s.Finished → s.glob.activeFds = 0 ∧ s.glob.activeReaders = 0) := by
  obtain ⟨hfds, hreads⟩ := exact_of_run run
  have hacc : s.Accounted tun :=
    ⟨hfds.counter.trans (fdGate_total tun s), hreads.counter.trans (readGate_total tun s),
      hfds.inside, hreads.inside⟩
  refine ⟨hacc, ?_, ?_⟩
  · intro e s' hstep
    obtain ⟨hfds', hreads'⟩ := exact_of_run (.snoc run hstep)
    have hmove : ∀ {L g g'}, Gate.Exact L g → Gate.Exact L g' → g' = g ∨ Gate.Step (2 ^ 32) L g g' →
        g.counter ≤ g'.counter + 1 ∧ g'.counter ≤ g.counter + 1 := by
      rintro L g g' hg hg' (rfl | hgate)
      · omega
      · have := hg.counter_step hg' hgate
        omega
    obtain ⟨hle, hle'⟩ := hmove hfds hfds' (fdGate_step hstep.1)
    exact ⟨hle, hle', hmove hreads hreads' (readGate_step hstep.1)⟩
  · intro hfinished
    obtain ⟨hzero, hzero'⟩ := hfinished.counts
    exact ⟨UInt32.toNat.inj (hacc.fds.trans hzero), UInt32.toNat.inj (hacc.readers.trans hzero')⟩

/-! ### An open that runs alone -/

/-- The call that came last takes a step. -/
theorem openGo_last {os : List (OpenCall Cred)} {c : OpenCall Cred} (cdevpriv : Option Errno)
    (hopens : s.opens = os ++ [c]) (h : s.openGo tun os.length c cdevpriv = some s') :
    DevStep tun s (.openGo os.length cdevpriv) s' :=
  Option.bind_eq_some_iff.mpr ⟨c, by rw [hopens]; exact List.getElem?_concat_length, h⟩

theorem set_last {os : List (OpenCall Cred)} {c : OpenCall Cred} (hopens : s.opens = os ++ [c])
    (pc : OpenPc) :
    (s.openTo os.length c pc).opens = os ++ [{ c with pc }] := by
  show s.opens.set _ _ = _
  rw [hopens, List.set_append_right _ _ le_rfl, Nat.sub_self]
  rfl

/-- An open that runs without interruption does what the sequential model says. -/
theorem open_alone (tun : Tunables) (s : DevSystem Cred) (dev : StaticDev) (fwrite : Bool) (cred : Cred)
    (cdevpriv : Option Errno) :
    let r := tcpstatsOpen tun dev fwrite cred cdevpriv s.glob
    ∃ es s' pc, Run (DevStep tun) s es s' ∧ s'.glob = r.2 ∧
      s'.opens = s.opens ++ [⟨.static dev, fwrite, cred, pc⟩] ∧
      s'.fds = s.fds ++ r.1.toOption.toList.map (⟨·, .opened⟩) ∧
      pc.result = some (match r.1 with | .error e => some e | .ok _ => none) := by
  intro r
  let c : OpenCall Cred := ⟨.static dev, fwrite, cred, .entered⟩
  let s₀ : DevSystem Cred := { s with opens := s.opens ++ [c] }
  have hback : ∀ g : Globals, { g with activeFds := g.activeFds + 1 - 1 } = g := by
    intro g
    rw [UInt32.add_sub_cancel]
  have henter : DevStep tun s (.openDev (.static dev) fwrite cred) s₀ := rfl
  cases fwrite with
  | true =>
    refine ⟨_, _, _, .snoc (.single henter) (openGo_last none rfl rfl), rfl, set_last rfl _, ?_, rfl⟩
    exact (List.append_nil _).symm
  | false =>
    let s₁ := s₀.addFd.openTo s.opens.length c (.counted s.glob.activeFds)
    have h₁ : s₁.opens = s.opens ++ [{ c with pc := .counted s.glob.activeFds }] := set_last rfl _
    have hcount : Run (DevStep tun) s [_, _] s₁ :=
      .snoc (.single henter) (openGo_last none rfl rfl)
    by_cases hfull : s.glob.activeFds ≥ tun.maxOpenFds
    · have hr : r = (.error .EMFILE, s.glob) := by
        show tcpstatsOpen tun dev false cred cdevpriv s.glob = _
        simp only [tcpstatsOpen, Bool.false_eq_true, if_false, if_pos hfull]
      let s₂ := s₁.openTo s.opens.length { c with pc := .counted s.glob.activeFds } .refusing
      have h₂ : s₂.opens = s.opens ++ [{ c with pc := .refusing }] := set_last h₁ _
      have hrefuse : DevStep tun s₁ (.openGo s.opens.length none) s₂ :=
        openGo_last none h₁ (congrArg some (by rw [if_pos hfull]))
      refine ⟨_, _, .refused, .snoc (.snoc hcount hrefuse) (openGo_last none h₂ rfl), ?_, set_last h₂ _, ?_, ?_⟩
      · rw [hr]
        exact hback s.glob
      · rw [hr]
        exact (List.append_nil _).symm
      · rw [hr]
        rfl
    · let s₂ := s₁.openTo s.opens.length { c with pc := .counted s.glob.activeFds } .allocating
      have h₂ : s₂.opens = s.opens ++ [{ c with pc := .allocating }] := set_last h₁ _
      have hadmit : DevStep tun s₁ (.openGo s.opens.length none) s₂ :=
        openGo_last none h₁ (congrArg some (by rw [if_neg hfull]))
      cases cdevpriv with
      | some e =>
        have hr : r = (.error e, s.glob) := by
          show tcpstatsOpen tun dev false cred (some e) s.glob = _
          simp only [tcpstatsOpen, Bool.false_eq_true, if_false, if_neg hfull]
        let s₃ := s₂.openTo s.opens.length { c with pc := .allocating } (.failing e)
        have h₃ : s₃.opens = s.opens ++ [{ c with pc := .failing e }] := set_last h₂ _
        have hfail : DevStep tun s₂ (.openGo s.opens.length (some e)) s₃ := openGo_last (some e) h₂ rfl
        refine ⟨_, _, .returned (some e), .snoc (.snoc (.snoc hcount hadmit) hfail)
          (openGo_last none h₃ rfl), ?_, set_last h₃ _, ?_, ?_⟩
        · rw [hr]
          exact hback s.glob
        · rw [hr]
          exact (List.append_nil _).symm
        · rw [hr]
          rfl
      | none =>
        let sc : Softc Cred := (OpenVia.static dev).softc cred
        have hr : r = (.ok sc, { s.glob with
            activeFds := s.glob.activeFds + 1, opensTotal := s.glob.opensTotal + 1 }) := by
          show tcpstatsOpen tun dev false cred none s.glob = _
          simp only [tcpstatsOpen, Bool.false_eq_true, if_false, if_neg hfull]
          rfl
        let s₃ : DevSystem Cred :=
          { s₂.openTo s.opens.length { c with pc := .allocating } .registered with fds := s₂.fds ++ [⟨sc, .opened⟩] }
        have h₃ : s₃.opens = s.opens ++ [{ c with pc := .registered }] := set_last h₂ _
        have hregister : DevStep tun s₂ (.openGo s.opens.length none) s₃ := openGo_last none h₂ rfl
        refine ⟨_, _, .returned none, .snoc (.snoc (.snoc hcount hadmit) hregister)
          (openGo_last none h₃ rfl), ?_, set_last h₃ _, ?_, ?_⟩
        · rw [hr]
          rfl
        · rw [hr]
          rfl
        · rw [hr]
          rfl
/-! ### Runs computed -/

/-- An event after which there are few of them. -/
def fewStep (tun : Tunables) (s : DevSystem Cred) (e : DevEvent Cred) : Option (DevSystem Cred) :=
  (devStep tun s e).filter fun s' => s'.registered + s'.opening < 2 ^ 32 && s'.reading < 2 ^ 32

theorem fewStep_step (s : DevSystem Cred) (e : DevEvent Cred) (s' : DevSystem Cred)
    (h : fewStep tun s e = some s') : FewStep tun s e s' := by
  obtain ⟨hstep, hfew⟩ := Option.filter_eq_some_iff.mp h
  simp only [Bool.and_eq_true, decide_eq_true_eq] at hfew
  exact ⟨hstep, hfew⟩

/-- A descriptor is opened, and a read of it admitted. -/
def oneRead : List (DevEvent ℕ) :=
  .openDev (.static .tcpstats) false 0 :: List.replicate 4 (.openGo 0 none) ++
    .read 0 :: List.replicate 4 (.readGo 0 0 none)

/-- A descriptor and a read, both counted. -/
theorem accounting_one : ∃ s, Run (FewStep .default) init oneRead s ∧
    s.glob.activeFds = 1 ∧ s.glob.activeReaders = 1 ∧ s.Accounted .default := by
  have hrun : (replay (fewStep .default) oneRead init).any
      (fun s => s.glob.activeFds = 1 && s.glob.activeReaders = 1) = true := by
    decide +kernel
  obtain ⟨s, hs, h⟩ := (Option.any_eq_true _ _).mp hrun
  simp only [Bool.and_eq_true, decide_eq_true_eq] at h
  have run := replay_run fewStep_step hs
  exact ⟨s, run, h.1, h.2, (accounting run).1⟩

/-- Any number of opens can stand behind their increment at once. -/
theorem exists_opening (tun : Tunables) (n : ℕ) :
    ∃ es, ∃ s : DevSystem ℕ, Run (DevStep tun) init es s ∧ s.registered + s.opening = n := by
  induction n with
  | zero => exact ⟨[], init, .nil _, rfl⟩
  | succ n ih =>
    obtain ⟨es, s, run, hn⟩ := ih
    let c : OpenCall ℕ := ⟨.static .tcpstats, false, 0, .entered⟩
    let s₁ : DevSystem ℕ := { s with opens := s.opens ++ [c] }
    have hc : s₁.opens[s.opens.length]? = some c := List.getElem?_concat_length
    have henter : DevStep tun s (.openDev (.static .tcpstats) false 0) s₁ := rfl
    have hcount : DevStep tun s₁ (.openGo s.opens.length none)
        (s₁.addFd.openTo s.opens.length c (.counted s₁.glob.activeFds)) :=
      Option.bind_eq_some_iff.mpr ⟨c, hc, rfl⟩
    refine ⟨_, _, .snoc (.snoc run henter) hcount, ?_⟩
    have hset := countP_set_add (p := fun c : OpenCall ℕ => c.pc.between) hc
      { c with pc := .counted s₁.glob.activeFds }
    have happend : s₁.opens.countP (fun c => c.pc.between) = s.opening := List.countP_append
    show s.registered + (s₁.opens.set s.opens.length _).countP (fun c => c.pc.between) = n + 1
    rw [happend] at hset
    have hset : (s₁.opens.set s.opens.length { c with pc := .counted s₁.glob.activeFds }).countP
        (fun c => c.pc.between) = s.opening + 1 := hset
    omega

/-- With 2^32 opens behind their increment at once the counter is zero. -/
theorem counter_wraps : ∃ es, ∃ s : DevSystem ℕ, Run (DevStep .default) init es s ∧
    s.registered + s.opening = 2 ^ 32 ∧ s.glob.activeFds = 0 := by
  obtain ⟨es, s, run, hn⟩ := exists_opening .default (2 ^ 32)
  have hcounted := (counted_of_run run).1
  unfold Gate.Counted at hcounted
  rw [fdGate_total, hn, Nat.mod_self] at hcounted
  exact ⟨es, s, run, hn, UInt32.toNat.inj hcounted⟩

end DevSystem

end TcpStats
