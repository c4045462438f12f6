import SilentDisco.Library.SlidingWindow
import SilentDisco.Transport.SecureReplay

/-!
# Replay protection

The windows refine the full history of commits: a sequence number is accepted exactly if its
channel has the key's generation and is active, it was not committed before, and it is not too
far below the highest one committed.

## Main definitions

* `committed`, `sequences`: the commits of a run, and those of one key
* `SecureDatagramReplay.Accounts`: the channels stand for the history

## Main results

* `accounts_after`: the channels stand for the commits of every run
* `replay_protection_is_exact`: the verdicts in terms of the commits, and what follows
-/

namespace SilentDisco.Transport

open Result SlidingWindow

/-! ## Windows -/

namespace ReplayWindow

variable {window : ReplayWindow} {sequence : UInt64} {s : Set ℕ}

/-- The window stands for a set of sequence numbers. -/
def Represents (window : ReplayWindow) (s : Set ℕ) : Prop :=
  SlidingWindow.Represents (window.highest.map UInt64.toNat) window.seen s

theorem represents_new : Represents {} ∅ := rfl

/-- The window accepts what is new and not below it. -/
theorem check_eq_ok_iff (h : window.Represents s) :
    window.check sequence = .ok () ↔ Accepts 128 s sequence.toNat := by
  unfold check
  cases hhighest : window.highest with
  | none =>
    have hempty : s = ∅ := by simpa [Represents, hhighest] using h
    exact iff_of_true rfl (hempty ▸ accepts_empty)
  | some highest =>
    have hwindow : SlidingWindow.Represents (some highest.toNat) window.seen s := by
      simpa [Represents, hhighest] using h
    dsimp only
    by_cases habove : sequence > highest
    · rw [if_pos habove]
      exact iff_of_true rfl (accepts_of_lt hwindow.1 (UInt64.lt_iff_toNat_lt.mp habove))
    · rw [if_neg habove]
      have hle : sequence ≤ highest := UInt64.not_lt.mp habove
      have hdistance : (highest - sequence).toNat = highest.toNat - sequence.toNat :=
        UInt64.toNat_sub_of_le _ _ hle
      rw [hwindow.accepts_iff (UInt64.le_iff_toNat_le.mp hle), ← hdistance]
      by_cases hold : highest - sequence ≥ replayBits
      · rw [if_pos hold]
        refine iff_of_false nofun fun hinside => ?_
        exact absurd (UInt64.le_iff_toNat_le.mp hold) (not_le.mpr hinside.1)
      · have hinside : (highest - sequence).toNat < 128 :=
          UInt64.lt_iff_toNat_lt.mp (UInt64.not_le.mp hold)
        rw [if_neg hold]
        by_cases hseen : window.seen &&& (1#128 <<< (highest - sequence).toNat) ≠ 0
        · rw [if_pos hseen]
          refine iff_of_false nofun fun hclear => ?_
          rw [(and_shiftLeft_one_ne_zero hinside).mp hseen] at hclear
          cases hclear.2
        · rw [if_neg hseen]
          refine iff_of_true rfl ⟨hinside, Bool.eq_false_iff.mpr fun hbit => ?_⟩
          exact hseen ((and_shiftLeft_one_ne_zero hinside).mpr hbit)

/-- An accepted sequence number joins the set. -/
theorem represents_record (h : window.Represents s) (haccepts : Accepts 128 s sequence.toNat) :
    (window.record sequence).Represents (insert sequence.toNat s) := by
  unfold record
  cases hhighest : window.highest with
  | none =>
    have hempty : s = ∅ := by simpa [Represents, hhighest] using h
    rw [hempty, insert_empty_eq]
    exact represents_singleton (by decide)
  | some highest =>
    have hwindow : SlidingWindow.Represents (some highest.toNat) window.seen s := by
      simpa [Represents, hhighest] using h
    have hdistance (habove : highest < sequence) :
        (sequence - highest).toNat = sequence.toNat - highest.toNat :=
      UInt64.toNat_sub_of_le _ _ (UInt64.le_of_lt habove)
    dsimp only
    split_ifs with habove hfar
    · -- The shift moves every bit out of the window.
      have hout : window.seen <<< (sequence.toNat - highest.toNat) = 0#128 := by
        refine BitVec.shiftLeft_eq_zero ?_
        rw [← hdistance habove]
        exact UInt64.le_iff_toNat_le.mp hfar
      have hadvanced := hwindow.advance (UInt64.lt_iff_toNat_lt.mp habove)
      rw [hout, BitVec.zero_or] at hadvanced
      exact hadvanced
    · rw [hdistance habove]
      exact hwindow.advance (UInt64.lt_iff_toNat_lt.mp habove)
    · have hle : sequence ≤ highest := UInt64.not_lt.mp habove
      have hle' := UInt64.le_iff_toNat_le.mp hle
      have hinside := ((hwindow.accepts_iff hle').mp haccepts).1
      rw [UInt64.toNat_sub_of_le _ _ hle]
      simpa [Represents, hhighest] using hwindow.mark hle' hinside

end ReplayWindow

namespace SecureDatagramReplay

variable {replay replay' : SecureDatagramReplay} {key : ReplayKey} {sequence : UInt64}
  {call : ReplayCall} {slot : PeerFingerprint × DatagramPurpose} {channel : PeerChannel}

/-! ## Calls -/

@[simp] theorem channel_install : (replay.install slot channel).channel slot = some channel :=
  AList.lookup_insert _

theorem channel_install_of_ne {other : PeerFingerprint × DatagramPurpose} (h : other ≠ slot) :
    (replay.install slot channel).channel other = replay.channel other :=
  AList.lookup_insert_ne h

/-- The key's channel has its generation and is active. -/
def Active (replay : SecureDatagramReplay) (key : ReplayKey) (channel : PeerChannel) : Prop :=
  replay.channel key.slot = some channel ∧ channel.generation = key.generation ∧
    channel.active = true

theorem checkActivation_eq_ok {u : Unit} :
    replay.checkActivation key = .ok u ↔
      (∀ previous ∈ replay.channel key.slot, previous.generation < key.generation) ∧
        (replay.channel key.slot = none → replay.len < maxPeerChannels) := by
  unfold checkActivation
  cases replay.channel key.slot with
  | none | some => simp

theorem activate_eq_ok :
    replay.activate key = .ok replay' ↔
      (key.peerFingerprint ≠ Vector.replicate 32 0 ∧ key.generation ≠ 0) ∧
        (∀ previous ∈ replay.channel key.slot, previous.generation < key.generation) ∧
        (replay.channel key.slot = none → replay.len < maxPeerChannels) ∧
        replay' = replay.install key.slot ⟨key.generation, true, {}⟩ := by
  unfold activate
  simp only [bind_eq_ok, Unique.exists_iff, rejectIf_eq_ok, checkActivation_eq_ok, pure,
    Except.pure, Except.ok.injEq, and_assoc, eq_comm (a := replay'), ne_eq]

theorem checkCandidate_eq_ok {u : Unit} :
    replay.checkCandidate key sequence = .ok u ↔
      ∃ channel, replay.Active key channel ∧ channel.window.check sequence = .ok () := by
  unfold checkCandidate Active
  cases replay.channel key.slot with
  | none => simp
  | some channel =>
    simp only [bind_eq_ok, check_eq_ok, Unique.exists_iff, Option.some.injEq]
    constructor
    · rintro ⟨hgeneration, hactive, hcheck⟩
      exact ⟨channel, ⟨rfl, hgeneration.symm, hactive⟩, hcheck⟩
    · rintro ⟨_, ⟨rfl, hgeneration, hactive⟩, hcheck⟩
      exact ⟨hgeneration.symm, hactive, hcheck⟩

theorem commitVerified_eq_ok :
    replay.commitVerified key sequence = .ok replay' ↔
      ∃ channel, replay.Active key channel ∧ channel.window.check sequence = .ok () ∧
        replay' = replay.install key.slot
          { channel with window := channel.window.record sequence } := by
  unfold commitVerified ReplayWindow.commit
  simp only [bind_eq_ok, checkCandidate_eq_ok, Unique.exists_iff]
  constructor
  · rintro ⟨⟨channel, hactive, hcheck⟩, hcommit⟩
    rw [hactive.1] at hcommit
    simp only [bind_eq_ok, Unique.exists_iff] at hcommit
    obtain ⟨window, ⟨-, hwindow⟩, hinstall⟩ := hcommit
    cases hwindow
    cases hinstall
    exact ⟨channel, hactive, hcheck, rfl⟩
  · rintro ⟨channel, hactive, hcheck, rfl⟩
    refine ⟨⟨channel, hactive, hcheck⟩, ?_⟩
    rw [hactive.1]
    simp only [bind_eq_ok, Unique.exists_iff]
    exact ⟨_, ⟨hcheck, rfl⟩, rfl⟩

/-- The commit that a call makes. -/
def commits (replay : SecureDatagramReplay) (call : ReplayCall) : List (ReplayKey × UInt64) :=
  match call with
  | .commitVerified key sequence =>
    if (secureReplay.out replay call).rejected then [] else [(key, sequence)]
  | _ => []

/-- What a call may do to the channels, and the commits it makes. -/
inductive Answers (replay : SecureDatagramReplay) :
    ReplayCall → SecureDatagramReplay → List (ReplayKey × UInt64) → Prop
  | kept (call : ReplayCall) : Answers replay call replay []
  | activated (key : ReplayKey)
      (hnewer : ∀ previous ∈ replay.channel key.slot, previous.generation < key.generation) :
      Answers replay (.activate key) (replay.install key.slot ⟨key.generation, true, {}⟩) []
  | retired (key : ReplayKey) (channel : PeerChannel) (hactive : replay.Active key channel) :
      Answers replay (.retire key) (replay.install key.slot { channel with active := false }) []
  | committed (key : ReplayKey) (sequence : UInt64) (channel : PeerChannel)
      (hactive : replay.Active key channel) (hcheck : channel.window.check sequence = .ok ()) :
      Answers replay (.commitVerified key sequence)
        (replay.install key.slot { channel with window := channel.window.record sequence })
        [(key, sequence)]

theorem retire_cases (replay : SecureDatagramReplay) (key : ReplayKey) :
    replay.retire key = (false, replay) ∨
      ∃ channel, replay.Active key channel ∧
        replay.retire key = (true, replay.install key.slot { channel with active := false }) := by
  unfold retire Active
  cases replay.channel key.slot with
  | none => exact .inl rfl
  | some channel =>
    dsimp only
    split_ifs with hother
    · exact .inl rfl
    · rw [not_or, not_not, Bool.not_eq_false] at hother
      exact .inr ⟨channel, ⟨rfl, hother⟩, rfl⟩

theorem settle_of_rejected {result : Except ReplayError SecureDatagramReplay}
    (h : (replay.settle result).2.rejected = true) : (replay.settle result).1 = replay := by
  cases result with
  | ok => cases h
  | error => rfl

/-- A rejected call changes nothing. -/
theorem next_of_rejected (h : (secureReplay.out replay call).rejected = true) :
    secureReplay.next replay call = replay := by
  cases call with
  | activate => exact settle_of_rejected h
  | retire key =>
    rcases replay.retire_cases key with hkept | ⟨channel, -, hretired⟩
    · exact congrArg Prod.snd hkept
    · change (!(replay.retire key).1) = true at h
      rw [hretired] at h
      cases h
  | checkCandidate => rfl
  | commitVerified => exact settle_of_rejected h

theorem next_answers (replay : SecureDatagramReplay) (call : ReplayCall) :
    replay.Answers call (secureReplay.next replay call) (replay.commits call) := by
  cases call with
  | activate key =>
    change replay.Answers _ (replay.settle (replay.activate key)).1 []
    cases hresult : replay.activate key with
    | error => exact .kept _
    | ok =>
      obtain ⟨-, hnewer, -, rfl⟩ := activate_eq_ok.mp hresult
      exact .activated key hnewer
  | retire key =>
    change replay.Answers _ (replay.retire key).2 []
    rcases replay.retire_cases key with hkept | ⟨channel, hactive, hretired⟩
    · rw [hkept]
      exact .kept _
    · rw [hretired]
      exact .retired key channel hactive
  | checkCandidate => exact .kept _
  | commitVerified key sequence =>
    change replay.Answers _ (replay.settle (replay.commitVerified key sequence)).1
      (if (replay.settle (replay.commitVerified key sequence)).2.rejected then []
        else [(key, sequence)])
    cases hresult : replay.commitVerified key sequence with
    | error => exact .kept _
    | ok =>
      obtain ⟨channel, hactive, hcheck, rfl⟩ := commitVerified_eq_ok.mp hresult
      exact .committed key sequence channel hactive hcheck

/-- A call on another channel leaves a channel alone. -/
theorem channel_next_of_ne (h : slot ≠ call.key.slot) :
    (secureReplay.next replay call).channel slot = replay.channel slot := by
  have hanswers := replay.next_answers call
  generalize secureReplay.next replay call = replay' at hanswers ⊢
  generalize replay.commits call = commits at hanswers
  cases hanswers with
  | kept => rfl
  | activated | retired | committed => exact channel_install_of_ne h

/-! ## The history of commits -/

/-- The commits of a run, in order. -/
def committed : SecureDatagramReplay → List ReplayCall → List (ReplayKey × UInt64)
  | _, [] => []
  | replay, call :: calls =>
    replay.commits call ++ (secureReplay.next replay call).committed calls

end SecureDatagramReplay

theorem ReplayKey.eq_of_slot {key other : ReplayKey} (hslot : other.slot = key.slot)
    (hgeneration : other.generation = key.generation) : other = key := by
  cases key
  cases other
  simp_all [ReplayKey.slot]

/-- The sequence numbers that were committed under a key. -/
def sequences (log : List (ReplayKey × UInt64)) (key : ReplayKey) : Set ℕ :=
  {n | ∃ sequence, (key, sequence) ∈ log ∧ sequence.toNat = n}

section Sequences

variable {log : List (ReplayKey × UInt64)} {key : ReplayKey} {sequence : UInt64}

theorem mem_sequences : sequence.toNat ∈ sequences log key ↔ (key, sequence) ∈ log := by
  constructor
  · rintro ⟨other, hmem, hsame⟩
    exact UInt64.toNat_inj.mp hsame ▸ hmem
  · exact fun hmem => ⟨sequence, hmem, rfl⟩

theorem sequences_append_self :
    sequences (log ++ [(key, sequence)]) key = insert sequence.toNat (sequences log key) := by
  ext n
  simp only [sequences, List.mem_append, List.mem_singleton, Prod.mk.injEq, true_and,
    Set.mem_ofPred_eq, Set.mem_insert_iff]
  constructor
  · rintro ⟨other, hmem | rfl, rfl⟩
    · exact .inr ⟨other, hmem, rfl⟩
    · exact .inl rfl
  · rintro (rfl | ⟨other, hmem, rfl⟩)
    · exact ⟨sequence, .inr rfl, rfl⟩
    · exact ⟨other, .inl hmem, rfl⟩

theorem sequences_append_of_ne {other : ReplayKey} (h : other ≠ key) :
    sequences (log ++ [(key, sequence)]) other = sequences log other := by
  ext n
  simp [sequences, h]

end Sequences

namespace SecureDatagramReplay

variable {replay replay' : SecureDatagramReplay} {key : ReplayKey} {sequence : UInt64}
  {call : ReplayCall} {log : List (ReplayKey × UInt64)}

/-- The channels stand for the history of commits. -/
structure Accounts (replay : SecureDatagramReplay) (log : List (ReplayKey × UInt64)) : Prop where
  once : log.Nodup
  /-- A commit was made under the generation of its channel, or a former one. -/
  known : ∀ commit ∈ log, ∃ channel, replay.channel commit.1.slot = some channel ∧
    commit.1.generation ≤ channel.generation
  window : ∀ key channel, replay.channel key.slot = some channel →
    channel.generation = key.generation → channel.window.Represents (sequences log key)

theorem accounts_new : Accounts .new [] where
  once := List.nodup_nil
  known _ hmem := absurd hmem List.not_mem_nil
  window _ _ hchannel := nomatch hchannel

/-- An active channel accepts what the history does. -/
theorem Accounts.check_iff (h : replay.Accounts log) {channel : PeerChannel}
    (hactive : replay.Active key channel) :
    channel.window.check sequence = .ok () ↔ Accepts 128 (sequences log key) sequence.toNat :=
  ReplayWindow.check_eq_ok_iff (h.window key channel hactive.1 hactive.2.1)

/-- A new generation has an empty history. -/
theorem Accounts.sequences_eq_empty (h : replay.Accounts log)
    (hnewer : ∀ previous ∈ replay.channel key.slot, previous.generation < key.generation) :
    sequences log key = ∅ := by
  refine Set.eq_empty_of_forall_notMem ?_
  rintro n ⟨sequence, hmem, -⟩
  obtain ⟨channel, hchannel, hle⟩ := h.known _ hmem
  exact absurd (hnewer channel hchannel) (UInt64.not_lt.mpr hle)

/-- A channel replaced by one that stands for its history. -/
theorem Accounts.install (h : replay.Accounts log) {log' : List (ReplayKey × UInt64)}
    {slot : PeerFingerprint × DatagramPurpose} {channel : PeerChannel} (honce : log'.Nodup)
    (hlog : ∀ commit ∈ log', commit ∈ log ∨
      commit.1.slot = slot ∧ commit.1.generation = channel.generation)
    (hother : ∀ key : ReplayKey, key.slot ≠ slot → sequences log' key = sequences log key)
    (hnewer : ∀ previous ∈ replay.channel slot, previous.generation ≤ channel.generation)
    (hwindow : ∀ key : ReplayKey, key.slot = slot → key.generation = channel.generation →
      channel.window.Represents (sequences log' key)) :
    (replay.install slot channel).Accounts log' where
  once := honce
  known commit hmem := by
    rcases hlog commit hmem with hmem | ⟨hslot, hgeneration⟩
    · obtain ⟨former, hformer, hle⟩ := h.known commit hmem
      by_cases hslot : commit.1.slot = slot
      · rw [hslot] at hformer ⊢
        exact ⟨channel, channel_install, UInt64.le_trans hle (hnewer former hformer)⟩
      · exact ⟨former, (channel_install_of_ne hslot).trans hformer, hle⟩
    · rw [hslot]
      exact ⟨channel, channel_install, UInt64.le_of_eq hgeneration⟩
  window key found hfound hgeneration := by
    by_cases hslot : key.slot = slot
    · rw [hslot, channel_install] at hfound
      cases hfound
      exact hwindow key hslot hgeneration.symm
    · rw [channel_install_of_ne hslot] at hfound
      rw [hother key hslot]
      exact h.window key found hfound hgeneration

theorem Accounts.activated (h : replay.Accounts log)
    (hnewer : ∀ previous ∈ replay.channel key.slot, previous.generation < key.generation) :
    (replay.install key.slot ⟨key.generation, true, {}⟩).Accounts log := by
  refine h.install h.once (fun _ => .inl) (fun _ _ => rfl)
    (fun previous hprevious => UInt64.le_of_lt (hnewer previous hprevious)) ?_
  intro other hslot hgeneration
  rw [ReplayKey.eq_of_slot hslot hgeneration, h.sequences_eq_empty hnewer]
  exact ReplayWindow.represents_new

variable {channel : PeerChannel}

/-- The active channel is the one that a change of it replaces. -/
theorem Active.le (hactive : replay.Active key channel) {generation : UInt64}
    (hsame : generation = channel.generation) :
    ∀ previous ∈ replay.channel key.slot, previous.generation ≤ generation := by
  intro previous hprevious
  rw [hactive.1] at hprevious
  cases hprevious
  exact UInt64.le_of_eq hsame.symm

theorem Accounts.retired (h : replay.Accounts log) (hactive : replay.Active key channel) :
    (replay.install key.slot { channel with active := false }).Accounts log :=
  h.install h.once (fun _ => .inl) (fun _ _ => rfl) (hactive.le rfl) fun other hslot hgeneration =>
    h.window other channel (hslot ▸ hactive.1) hgeneration.symm

theorem Accounts.committed (h : replay.Accounts log) (hactive : replay.Active key channel)
    (hcheck : channel.window.check sequence = .ok ()) :
    (replay.install key.slot
      { channel with window := channel.window.record sequence }).Accounts
        (log ++ [(key, sequence)]) := by
  have haccepts := (h.check_iff hactive).mp hcheck
  refine h.install ?_ ?_ ?_ (hactive.le rfl) ?_
  · refine List.nodup_append.mpr ⟨h.once, List.nodup_singleton _, ?_⟩
    rintro commit hmem other hother rfl
    rw [List.mem_singleton.mp hother] at hmem
    exact haccepts.1 (mem_sequences.mpr hmem)
  · intro commit hmem
    rcases List.mem_append.mp hmem with hmem | hmem
    · exact .inl hmem
    · rw [List.mem_singleton.mp hmem]
      exact .inr ⟨rfl, hactive.2.1.symm⟩
  · intro other hslot
    exact sequences_append_of_ne fun hsame => hslot (congrArg ReplayKey.slot hsame)
  · intro other hslot hgeneration
    rw [ReplayKey.eq_of_slot hslot (hgeneration.trans hactive.2.1), sequences_append_self]
    exact ReplayWindow.represents_record (h.window key channel hactive.1 hactive.2.1) haccepts

/-- Every call keeps the account. -/
theorem Answers.accounts {commits : List (ReplayKey × UInt64)}
    (hcall : replay.Answers call replay' commits) (h : replay.Accounts log) :
    replay'.Accounts (log ++ commits) := by
  cases hcall with
  | kept =>
    rw [List.append_nil]
    exact h
  | activated key hnewer =>
    rw [List.append_nil]
    exact h.activated hnewer
  | retired _ _ hactive =>
    rw [List.append_nil]
    exact h.retired hactive
  | committed _ _ _ hactive hcheck => exact h.committed hactive hcheck

/-- The channels stand for the commits of every run. -/
theorem Accounts.after (h : replay.Accounts log) (calls : List ReplayCall) :
    (secureReplay.after replay calls).Accounts (log ++ replay.committed calls) := by
  induction calls generalizing replay log with
  | nil =>
    rw [SecureDatagramReplay.committed, List.append_nil]
    exact h
  | cons call calls ih =>
    rw [SecureDatagramReplay.committed, ← List.append_assoc]
    exact ih ((replay.next_answers call).accounts h)

/-! ## Fences -/

/-- The generation of the key is superseded or retired. -/
def Fenced (replay : SecureDatagramReplay) (key : ReplayKey) : Prop :=
  ∃ channel, replay.channel key.slot = some channel ∧
    (key.generation < channel.generation ∨
      key.generation = channel.generation ∧ channel.active = false)

/-- A fenced generation stays fenced. -/
theorem Answers.fenced {commits : List (ReplayKey × UInt64)}
    (hcall : replay.Answers call replay' commits) (h : replay.Fenced key) : replay'.Fenced key := by
  obtain ⟨channel, hchannel, hfence⟩ := h
  -- A channel of the same generation that stays inactive, or one of a higher generation.
  have hinstall : ∀ slot installed,
      (slot = key.slot → key.generation < installed.generation ∨
        key.generation = installed.generation ∧ installed.active = false) →
      (replay.install slot installed).Fenced key := by
    intro slot installed hnext
    by_cases hslot : key.slot = slot
    · exact ⟨installed, hslot ▸ channel_install, hnext hslot.symm⟩
    · exact ⟨channel, (channel_install_of_ne hslot).trans hchannel, hfence⟩
  cases hcall with
  | kept => exact ⟨channel, hchannel, hfence⟩
  | activated other hnewer =>
    refine hinstall _ _ fun hslot => .inl ?_
    have hless := hnewer channel (hslot ▸ hchannel)
    rcases hfence with hlower | ⟨hsame, -⟩
    · exact UInt64.lt_trans hlower hless
    · exact hsame ▸ hless
  | retired other found hactive =>
    refine hinstall _ _ fun hslot => ?_
    have hfound : channel = found :=
      Option.some.inj (hchannel.symm.trans (hslot ▸ hactive.1))
    exact hfence.imp (fun hlower => hfound ▸ hlower) fun hsame => ⟨hfound ▸ hsame.1, rfl⟩
  | committed _ _ found hactive =>
    refine hinstall _ _ fun hslot => ?_
    have hfound : channel = found :=
      Option.some.inj (hchannel.symm.trans (hslot ▸ hactive.1))
    subst hfound
    exact hfence

theorem Fenced.after (h : replay.Fenced key) (calls : List ReplayCall) :
    (secureReplay.after replay calls).Fenced key :=
  Machine.invariant_after (I := fun replay => Fenced replay key)
    (fun replay call => (next_answers replay call).fenced) h calls

/-- A fenced generation accepts nothing. -/
theorem Fenced.not_active (h : replay.Fenced key) (channel : PeerChannel) :
    ¬replay.Active key channel := by
  rintro ⟨hchannel, hgeneration, hactive⟩
  obtain ⟨found, hfound, hfence⟩ := h
  rw [hchannel] at hfound
  cases hfound
  rcases hfence with hlower | ⟨-, hinactive⟩
  · exact UInt64.lt_irrefl _ (hgeneration ▸ hlower)
  · exact Bool.noConfusion (hactive.symm.trans hinactive)

/-! ## Channels do not interfere -/

variable {slot : PeerFingerprint × DatagramPurpose} {lone : SecureDatagramReplay}

/-- The first activation of the channel finds room among the channels. -/
def HasRoom (slot : PeerFingerprint × DatagramPurpose) (replay : SecureDatagramReplay)
    (call : ReplayCall) : Prop :=
  ∀ key, call = .activate key → key.slot = slot → replay.channel slot = none →
    replay.len < maxPeerChannels

/-- The other state has the same channel, and no other one. -/
structure Isolates (slot : PeerFingerprint × DatagramPurpose)
    (replay lone : SecureDatagramReplay) : Prop where
  same : lone.channel slot = replay.channel slot
  lone : ∀ other ≠ slot, lone.channel other = none

theorem Isolates.len_lt (h : Isolates slot replay lone) (hnone : replay.channel slot = none) :
    lone.len < maxPeerChannels := by
  have hempty : lone.channels.keys = [] := by
    refine List.eq_nil_iff_forall_not_mem.mpr fun other hmem => ?_
    refine AList.lookup_eq_none.mp ?_ (AList.mem_keys.mpr hmem)
    by_cases hslot : other = slot
    · rw [hslot]
      exact h.same.trans hnone
    · exact h.lone other hslot
  rw [len, hempty]
  decide

/-- A channel changed alike. -/
theorem Isolates.install (h : Isolates slot replay lone) (channel : PeerChannel) :
    Isolates slot (replay.install slot channel) (lone.install slot channel) where
  same := channel_install.trans channel_install.symm
  lone other hother := (channel_install_of_ne hother).trans (h.lone other hother)

/-- Fallible calls that fail alike or install the same channel. -/
theorem Isolates.settle (h : Isolates slot replay lone)
    {result result' : Except ReplayError SecureDatagramReplay}
    (hresult : (∃ error, result = .error error ∧ result' = .error error) ∨
      ∃ channel, result = .ok (replay.install slot channel) ∧
        result' = .ok (lone.install slot channel)) :
    (replay.settle result).2 = (lone.settle result').2 ∧
      Isolates slot (replay.settle result).1 (lone.settle result').1 := by
  rcases hresult with ⟨error, rfl, rfl⟩ | ⟨channel, rfl, rfl⟩
  · exact ⟨rfl, h⟩
  · exact ⟨rfl, h.install channel⟩

section

variable (h : Isolates key.slot replay lone)
include h

theorem Isolates.checkActivation_eq
    (hroom : replay.channel key.slot = none → replay.len < maxPeerChannels) :
    lone.checkActivation key = replay.checkActivation key := by
  unfold checkActivation
  rw [h.same]
  cases hchannel : replay.channel key.slot with
  | some => rfl
  | none =>
    dsimp only
    rw [rejectIf, if_neg (not_le.mpr (h.len_lt hchannel)), rejectIf,
      if_neg (not_le.mpr (hroom hchannel))]

theorem Isolates.activate
    (hroom : replay.channel key.slot = none → replay.len < maxPeerChannels) :
    (∃ error, replay.activate key = .error error ∧ lone.activate key = .error error) ∨
      ∃ channel, replay.activate key = .ok (replay.install key.slot channel) ∧
        lone.activate key = .ok (lone.install key.slot channel) := by
  unfold SecureDatagramReplay.activate
  rw [h.checkActivation_eq hroom]
  rcases rejectIf (key.peerFingerprint = Vector.replicate 32 0) _ with error | _
  · exact .inl ⟨error, rfl, rfl⟩
  rcases rejectIf (key.generation = 0) _ with error | _
  · exact .inl ⟨error, rfl, rfl⟩
  rcases replay.checkActivation key with error | _
  · exact .inl ⟨error, rfl, rfl⟩
  · exact .inr ⟨_, rfl, rfl⟩

theorem Isolates.checkCandidate_eq (sequence : UInt64) :
    lone.checkCandidate key sequence = replay.checkCandidate key sequence := by
  unfold checkCandidate
  rw [h.same]

theorem Isolates.commitVerified (sequence : UInt64) :
    (∃ error, replay.commitVerified key sequence = .error error ∧
        lone.commitVerified key sequence = .error error) ∨
      ∃ channel, replay.commitVerified key sequence = .ok (replay.install key.slot channel) ∧
        lone.commitVerified key sequence = .ok (lone.install key.slot channel) := by
  unfold SecureDatagramReplay.commitVerified
  rw [h.checkCandidate_eq, h.same]
  rcases replay.checkCandidate key sequence with error | _
  · exact .inl ⟨error, rfl, rfl⟩
  rcases replay.channel key.slot with _ | channel
  · exact .inl ⟨_, rfl, rfl⟩
  change (∃ error, (channel.window.commit sequence >>= _) = _ ∧
      (channel.window.commit sequence >>= _) = _) ∨
    ∃ installed, (channel.window.commit sequence >>= _) = _ ∧
      (channel.window.commit sequence >>= _) = _
  rcases channel.window.commit sequence with error | window
  · exact .inl ⟨error, rfl, rfl⟩
  · exact .inr ⟨_, rfl, rfl⟩

theorem Isolates.retire :
    (replay.retire key).1 = (lone.retire key).1 ∧
      Isolates key.slot (replay.retire key).2 (lone.retire key).2 := by
  unfold SecureDatagramReplay.retire
  rw [h.same]
  rcases replay.channel key.slot with _ | channel
  · exact ⟨rfl, h⟩
  · dsimp only
    split_ifs
    · exact ⟨rfl, h⟩
    · exact ⟨rfl, h.install _⟩

end

/-- A call is answered from its own channel alone, if a first activation finds room. -/
theorem Isolates.answer (h : Isolates slot replay lone) (hroom : HasRoom slot replay call)
    (hcall : call.key.slot = slot) :
    secureReplay.out replay call = secureReplay.out lone call ∧
      Isolates slot (secureReplay.next replay call) (secureReplay.next lone call) := by
  subst hcall
  cases call with
  | activate key => exact h.settle (h.activate (hroom key rfl rfl))
  | retire => exact ⟨congrArg ReplayReply.retired h.retire.1, h.retire.2⟩
  | checkCandidate key sequence =>
    exact ⟨congrArg ReplayReply.result (h.checkCandidate_eq sequence).symm, h⟩
  | commitVerified key sequence => exact h.settle (h.commitVerified sequence)

theorem isolates_new (slot : PeerFingerprint × DatagramPurpose) : Isolates slot .new .new where
  same := rfl
  lone _ _ := rfl

/-- The calls of a channel. -/
def onSlot (slot : PeerFingerprint × DatagramPurpose) (call : ReplayCall) : Bool :=
  call.key.slot = slot

/-- Calls on other channels do not change the answers of a channel. -/
theorem outputsOf_onSlot {calls : List ReplayCall}
    (hroom : secureReplay.Along (HasRoom slot) .new calls) :
    secureReplay.outputsOf (onSlot slot) .new calls =
      secureReplay.outputs .new (calls.filter (onSlot slot)) := by
  refine Machine.outputsOf_eq_outputs_filter (R := Isolates slot) ?_ ?_ (isolates_new slot) hroom
  · intro replay lone call h hother
    have hslot : slot ≠ call.key.slot := fun hsame => of_decide_eq_false hother hsame.symm
    exact ⟨h.same.trans (channel_next_of_ne hslot).symm, h.lone⟩
  · intro replay lone call h hroom hsame
    exact h.answer hroom (of_decide_eq_true hsame)

end SecureDatagramReplay

open SecureDatagramReplay

/-- **Replay protection is exact.** After any run, a sequence number is committed exactly if
the channel of its key has the key's generation and is active, it was not committed under the
key before, and it is less than 128 below the highest one that was. So nothing is committed
twice, a retired or superseded generation accepts nothing any more, and a rejected call changes
nothing. A channel is answered as if it were alone, as long as its first activation finds room
among the channels. -/
theorem replay_protection_is_exact (calls : List ReplayCall) :
    (∀ key sequence,
      (∃ replay, (secureReplay.after .new calls).commitVerified key sequence = .ok replay) ↔
        (∃ channel, (secureReplay.after .new calls).channel key.slot = some channel ∧
          channel.generation = key.generation ∧ channel.active = true) ∧
        (key, sequence) ∉ SecureDatagramReplay.new.committed calls ∧
        ∀ highest, IsGreatest (sequences (SecureDatagramReplay.new.committed calls) key) highest →
          highest < sequence.toNat + 128) ∧
    (SecureDatagramReplay.new.committed calls).Nodup ∧
    (∀ key, (secureReplay.after .new calls).Fenced key → ∀ later sequence replay,
      (secureReplay.after .new (calls ++ later)).commitVerified key sequence ≠ .ok replay) ∧
    (∀ call, (secureReplay.out (secureReplay.after .new calls) call).rejected = true →
      secureReplay.next (secureReplay.after .new calls) call = secureReplay.after .new calls) ∧
    ∀ slot, secureReplay.Along (HasRoom slot) .new calls →
      secureReplay.outputsOf (onSlot slot) .new calls =
        secureReplay.outputs .new (calls.filter (onSlot slot)) := by
  have haccounts := accounts_new.after calls
  rw [List.nil_append] at haccounts
  refine ⟨fun key sequence => ?_, haccounts.once, ?_, fun _ => next_of_rejected,
    fun _ => outputsOf_onSlot⟩
  · rw [← mem_sequences]
    constructor
    · rintro ⟨replay, hcommit⟩
      obtain ⟨channel, hactive, hcheck, -⟩ := commitVerified_eq_ok.mp hcommit
      exact ⟨⟨channel, hactive⟩, (haccounts.check_iff hactive).mp hcheck⟩
    · rintro ⟨⟨channel, hactive⟩, haccepts⟩
      exact ⟨_, commitVerified_eq_ok.mpr
        ⟨channel, hactive, (haccounts.check_iff hactive).mpr haccepts, rfl⟩⟩
  · intro key hfenced later sequence replay hcommit
    obtain ⟨channel, hactive, -⟩ := commitVerified_eq_ok.mp hcommit
    rw [Machine.after_append] at hactive
    exact (hfenced.after later).not_active channel hactive

/-! ## A full registry -/

namespace ReplayScenario

/-- The peers of the runs. -/
def peer (n : ℕ) : PeerFingerprint :=
  ((Vector.replicate 32 1).set 0 (UInt8.ofNat (n / 256))).set 1 (UInt8.ofNat (n % 256))

def key (n : ℕ) : ReplayKey := ⟨peer n, 1, .audio⟩

/-- One peer after another is activated. -/
def activations (start count : ℕ) : List ReplayCall :=
  (List.range' start count).map fun n => .activate (key n)

variable {n : ℕ} {replay : SecureDatagramReplay}

theorem slot_ne {m : ℕ} (hm : m < 65536) (hn : n < 65536) (h : m ≠ n) :
    (key m).slot ≠ (key n).slot := by
  intro hslot
  have hpeer : peer m = peer n := congrArg Prod.fst hslot
  have hhigh : UInt8.ofNat (m / 256) = UInt8.ofNat (n / 256) := by
    simpa [peer] using congrArg (fun fingerprint => fingerprint[0]) hpeer
  have hlow : UInt8.ofNat (m % 256) = UInt8.ofNat (n % 256) := by
    simpa [peer] using congrArg (fun fingerprint => fingerprint[1]) hpeer
  have hhigh' := congrArg UInt8.toNat hhigh
  have hlow' := congrArg UInt8.toNat hlow
  simp only [UInt8.toNat_ofNat'] at hhigh' hlow'
  omega

/-- A new peer is activated while there is room. -/
theorem next_activate (hnew : replay.channel (key n).slot = none)
    (hroom : replay.len < maxPeerChannels) :
    secureReplay.next replay (.activate (key n)) = replay.install (key n).slot ⟨1, true, {}⟩ := by
  have hidentity : peer n ≠ Vector.replicate 32 0 := by
    intro hzero
    have hthird := congrArg (fun fingerprint => fingerprint[2]) hzero
    simp [peer] at hthird
  have hactivate : replay.activate (key n) = .ok (replay.install (key n).slot ⟨1, true, {}⟩) :=
    activate_eq_ok.mpr ⟨⟨hidentity, by simp [key]⟩, by simp [hnew], fun _ => hroom, rfl⟩
  change (replay.settle (replay.activate (key n))).1 = _
  rw [hactivate]
  rfl

theorem len_install {slot : PeerFingerprint × DatagramPurpose} (channel : PeerChannel)
    (hnew : replay.channel slot = none) : (replay.install slot channel).len = replay.len + 1 := by
  have hmem : slot ∉ replay.channels.keys := AList.lookup_eq_none.mp hnew
  change (replay.channels.insert slot channel).keys.length = _
  rw [AList.keys_insert, List.length_cons]
  exact congrArg (fun keys => keys.length + 1)
    (@List.erase_of_not_mem _ instBEqOfDecidableEq _ slot _ hmem)

theorem after_activations (start count : ℕ) (hcount : count ≤ 512) (hend : start + count ≤ 513) :
    (secureReplay.after .new (activations start count)).len = count ∧
      ∀ n < 65536, n < start ∨ start + count ≤ n →
        (secureReplay.after .new (activations start count)).channel (key n).slot = none := by
  induction count with
  | zero => exact ⟨rfl, fun _ _ _ => rfl⟩
  | succ count ih =>
    obtain ⟨hlen, hnone⟩ := ih (by omega) (by omega)
    have hnew := hnone (start + count) (by omega) (.inr le_rfl)
    have hafter : secureReplay.after .new (activations start (count + 1)) =
        (secureReplay.after .new (activations start count)).install (key (start + count)).slot
          ⟨1, true, {}⟩ := by
      have hconcat : activations start (count + 1) =
          activations start count ++ [.activate (key (start + count))] := by
        simp [activations, List.range'_concat]
      rw [hconcat, Machine.after_append]
      exact next_activate hnew (hlen.trans_lt hcount)
    rw [hafter]
    refine ⟨(len_install _ hnew).trans (by rw [hlen]), fun n hn houtside => ?_⟩
    rw [channel_install_of_ne (slot_ne hn (by omega) (by omega))]
    exact hnone n hn (by omega)

/-- A full registry refuses another peer, whose datagrams stay unknown. -/
theorem out_of_full (hnew : replay.channel (key n).slot = none)
    (hfull : replay.len = maxPeerChannels) :
    secureReplay.out (secureReplay.next replay (.activate (key n))) (.commitVerified (key n) 0) =
      .result (.error .unknownKey) := by
  have hrefused : secureReplay.next replay (.activate (key n)) = replay := by
    change (replay.settle (replay.activate (key n))).1 = replay
    cases hactivate : replay.activate (key n) with
    | error => rfl
    | ok => exact absurd ((activate_eq_ok.mp hactivate).2.2.1 hnew) hfull.not_lt
  have hcommit : replay.commitVerified (key n) 0 = .error .unknownKey := by
    unfold commitVerified checkCandidate
    rw [hnew]
    rfl
  change (SecureDatagramReplay.settle _ (SecureDatagramReplay.commitVerified _ (key n) 0)).2 = _
  rw [hrefused, hcommit]
  rfl

/-- The first datagram of an activated peer is accepted. -/
theorem out_of_room (hnew : replay.channel (key n).slot = none)
    (hroom : replay.len < maxPeerChannels) :
    secureReplay.out (secureReplay.next replay (.activate (key n))) (.commitVerified (key n) 0) =
      .result (.ok ()) := by
  rw [next_activate hnew hroom]
  have hactive : (replay.install (key n).slot ⟨1, true, {}⟩).Active (key n) ⟨1, true, {}⟩ :=
    ⟨channel_install, rfl, rfl⟩
  change (SecureDatagramReplay.settle _ (SecureDatagramReplay.commitVerified _ (key n) 0)).2 = _
  rw [commitVerified_eq_ok.mpr ⟨_, hactive, rfl, rfl⟩]
  rfl

end ReplayScenario

open ReplayScenario in
/-- The registry holds 512 channels: whether one peer was activated decides whether the datagrams
of another are accepted. -/
theorem not_replay_isolates :
    activations 0 512 ++ [.activate (key 512)] =
        .activate (key 0) :: (activations 1 511 ++ [.activate (key 512)]) ∧
      (key 0).slot ≠ (key 512).slot ∧
      secureReplay.out (secureReplay.after .new (activations 0 512 ++ [.activate (key 512)]))
        (.commitVerified (key 512) 0) = .result (.error .unknownKey) ∧
      secureReplay.out (secureReplay.after .new (activations 1 511 ++ [.activate (key 512)]))
        (.commitVerified (key 512) 0) = .result (.ok ()) := by
  obtain ⟨hfull, hunknown⟩ := after_activations 0 512 le_rfl (by decide)
  obtain ⟨hroom, hnew⟩ := after_activations 1 511 (by decide) (by decide)
  refine ⟨rfl, slot_ne (by decide) (by decide) (by decide), ?_, ?_⟩
  · rw [Machine.after_append]
    exact out_of_full (hunknown 512 (by decide) (.inr le_rfl)) hfull
  · rw [Machine.after_append]
    exact out_of_room (hnew 512 (by decide) (.inr le_rfl)) (hroom.trans_lt (by decide))

end SilentDisco.Transport
