import Knust.Transport.SessionTable

namespace Knust.Transport.Server

open Foundation Foundation.Task Protocol Security

def State.Pends (s : State) (n channel : ℕ) : Prop :=
  ∃ cells, s.cells[n]? = some cells ∧ cells.pendingAck = some channel

/-- A channel for an acknowledgement belongs to one client, and to none any more once it
was taken. -/
structure Paired (trace : List Step) (s : State) : Prop where
  bounded : ∀ n channel, s.Pends n channel → channel < s.acks.length
  distinct : ∀ n m channel, s.Pends n channel → s.Pends m channel → n = m
  taken : ∀ o ∈ trace, ∀ n channel, o.event = ⟨.takePendingAck n, some channel⟩ →
    channel < s.acks.length ∧ ∀ m, ¬ s.Pends m channel

section

variable {P : Primitives} {c : Command} {i : Env} {s s' : State} {a : c.Response}

theorem State.Pends.of_withCells {α : Type} {n m channel : ℕ} {x : α}
    {f : ClientCells → Option (α × ClientCells)} (he : s.withCells m f = some (x, s'))
    (hf : ∀ c x c', f c = some (x, c') → c'.pendingAck = some channel →
      c.pendingAck = some channel) (hp : s'.Pends n channel) : s.Pends n channel := by
  obtain ⟨cells, cells', hcells, hstep, rfl⟩ := State.withCells_eq_some he
  obtain ⟨new, hnew, hpending⟩ := hp
  by_cases hmn : m = n
  · subst hmn
    rw [List.getElem?_set_self (List.getElem?_eq_some_iff.mp hcells).1] at hnew
    cases hnew
    exact ⟨cells, hcells, hf _ _ _ hstep hpending⟩
  · rw [List.getElem?_set_ne hmn] at hnew
    exact ⟨new, hnew, hpending⟩

theorem exec_expectAck_pends {n m channel : ℕ} {x : ℕ}
    (he : exec P (.expectAck m) i s = some (x, s')) (hp : s'.Pends n channel) :
    s.Pends n channel ∨ (m = n ∧ channel = s.acks.length) := by
  simp only [exec] at he
  split at he
  swap
  · cases he
  rename_i cells hcells
  cases he
  obtain ⟨new, hnew, hpending⟩ := hp
  by_cases hmn : m = n
  · subst hmn
    rw [List.getElem?_set_self (List.getElem?_eq_some_iff.mp hcells).1] at hnew
    cases hnew
    exact .inr ⟨rfl, (Option.some.inj hpending).symm⟩
  · rw [List.getElem?_set_ne hmn] at hnew
    exact .inl ⟨new, hnew, hpending⟩

theorem exec_pends {n channel : ℕ} (he : exec P c i s = some (a, s')) (hp : s'.Pends n channel) :
    s.Pends n channel ∨ (c = .expectAck n ∧ channel = s.acks.length) := by
  by_cases hc : c.touchesChannels = false
  · obtain ⟨-, hcells, -⟩ := exec_channels hc he
    rw [State.Pends, hcells] at hp
    exact .inl hp
  cases c
  case openSession =>
    obtain ⟨-, rfl⟩ := exec_openSession he
    cases a with
    | none => exact .inl hp
    | some id =>
      obtain ⟨cells, hcells, hpending⟩ := hp
      rcases Nat.lt_or_ge n s.cells.length with hn | hn
      · have hold : s.cells[n]? = some cells := by
          simpa [State.insertSession, List.getElem?_append_left hn] using hcells
        exact .inl ⟨cells, hold, hpending⟩
      · have hnew : [ClientCells.new i.now][n - s.cells.length]? = some cells := by
          simpa [State.insertSession, List.getElem?_append_right hn] using hcells
        rw [List.mem_singleton.mp (List.mem_of_getElem? hnew)] at hpending
        cases hpending
  case touchSession id =>
    simp only [exec] at he
    obtain ⟨-, hx⟩ := State.withSessions_eq_some he
    split at hx <;> cases hx
    · obtain ⟨cells, hcells, hpending⟩ := hp
      simp only [State.touchCells, List.getElem?_modify] at hcells
      obtain ⟨old, hold, rfl⟩ := Option.map_eq_some_iff.mp hcells
      refine .inl ⟨old, hold, ?_⟩
      split at hpending <;> exact hpending
    · exact .inl hp
  case removeSession =>
    obtain ⟨-, rfl⟩ := exec_removeSession he
    exact .inl hp
  case removeSessions =>
    obtain rfl := exec_removeSessions he
    exact .inl hp
  case touch | loadRecvSeq | storeRecvSeq | unlockSend | loadSendSeq | storeSendSeq =>
    simp only [exec] at he
    refine .inl (hp.of_withCells he fun _ _ _ hf hpending ↦ ?_)
    cases hf
    exact hpending
  case lockSend =>
    simp only [exec] at he
    refine .inl (hp.of_withCells he fun _ _ _ hf hpending ↦ ?_)
    split at hf <;> cases hf
    exact hpending
  case takePendingAck =>
    simp only [exec] at he
    refine .inl (hp.of_withCells he fun _ _ _ hf hpending ↦ ?_)
    cases hf
    cases hpending
  case expectAck m =>
    rcases exec_expectAck_pends he hp with hp | ⟨rfl, hchannel⟩
    · exact .inl hp
    · exact .inr ⟨rfl, hchannel⟩
  case deliverAck | publish =>
    cases he
    exact .inl hp
  all_goals exact absurd rfl hc

theorem exec_acks_length (he : exec P c i s = some (a, s')) : s.acks.length ≤ s'.acks.length ∧
    ∀ n, c = .expectAck n → s.acks.length < s'.acks.length := by
  by_cases hc : c.touchesChannels = false
  · obtain ⟨-, -, hacks, -⟩ := exec_channels hc he
    refine ⟨by rw [hacks], fun n hn ↦ ?_⟩
    subst hn
    cases hc
  cases c
  case openSession =>
    obtain ⟨-, rfl⟩ := exec_openSession he
    cases a <;> exact ⟨le_rfl, by simp⟩
  case touchSession =>
    simp only [exec] at he
    obtain ⟨-, hx⟩ := State.withSessions_eq_some he
    split at hx <;> cases hx <;> exact ⟨le_rfl, by simp⟩
  case removeSession =>
    obtain ⟨-, rfl⟩ := exec_removeSession he
    exact ⟨le_rfl, by simp⟩
  case removeSessions =>
    obtain rfl := exec_removeSessions he
    exact ⟨le_rfl, by simp⟩
  case touch | loadRecvSeq | storeRecvSeq | lockSend | unlockSend | loadSendSeq | storeSendSeq
      | takePendingAck =>
    simp only [exec] at he
    obtain ⟨-, -, -, -, rfl⟩ := State.withCells_eq_some he
    exact ⟨le_rfl, by simp⟩
  case expectAck =>
    simp only [exec] at he
    split at he
    · rename_i cells hcells
      cases he
      have hdrop : (s.dropSender cells.pendingAck).length = s.acks.length := by
        cases cells.pendingAck <;> simp [State.dropSender]
      simp only [List.length_append, List.length_singleton, hdrop]
      exact ⟨by omega, fun _ _ ↦ by omega⟩
    · cases he
  case deliverAck =>
    cases he
    exact ⟨by simp, by simp⟩
  case publish =>
    cases he
    exact ⟨le_rfl, by simp⟩
  all_goals exact absurd rfl hc

theorem exec_takePendingAck {n channel : ℕ}
    (he : exec P (.takePendingAck n) i s = some (some channel, s')) :
    s.Pends n channel ∧ ¬ s'.Pends n channel := by
  simp only [exec] at he
  obtain ⟨cells, cells', hcells, hf, rfl⟩ := State.withCells_eq_some he
  simp only [Option.some.injEq, Prod.mk.injEq] at hf
  obtain ⟨hpending, rfl⟩ := hf
  refine ⟨⟨cells, hcells, hpending⟩, fun hpends ↦ ?_⟩
  obtain ⟨new, hnew, hstill⟩ := hpends
  rw [List.getElem?_set_self (List.getElem?_eq_some_iff.mp hcells).1] at hnew
  cases hnew
  cases hstill

theorem Paired.start : Paired [] .bound := by
  refine ⟨fun n channel hp ↦ ?_, fun n m channel hp ↦ ?_, fun _ h ↦ nomatch h⟩
  · obtain ⟨cells, hcells, -⟩ := hp
    cases hcells
  · obtain ⟨cells, hcells, -⟩ := hp
    cases hcells

theorem Paired.exec {trace : List Step} (hs : Paired trace s) (he : exec P c i s = some (a, s'))
    (k : ℕ) : Paired (⟨k, c, a, s, s'⟩ :: trace) s' := by
  obtain ⟨hle, hlt⟩ := exec_acks_length he
  have hnot {channel : ℕ} (hchannel : channel < s.acks.length)
      (hold : ∀ m, ¬ s.Pends m channel) (m : ℕ) : ¬ s'.Pends m channel := by
    intro hp
    rcases exec_pends he hp with hp | ⟨-, rfl⟩
    · exact hold m hp
    · omega
  refine ⟨fun n channel hp ↦ ?_, fun n m channel hn hm ↦ ?_, fun o ho n channel hevent ↦ ?_⟩
  · rcases exec_pends he hp with hp | ⟨rfl, rfl⟩
    · exact (hs.bounded n channel hp).trans_le hle
    · exact hlt n rfl
  · rcases exec_pends he hn with hn | ⟨hcn, rfl⟩
    · rcases exec_pends he hm with hm | ⟨-, rfl⟩
      · exact hs.distinct n m channel hn hm
      · exact absurd (hs.bounded n _ hn) (by omega)
    · rcases exec_pends he hm with hm | ⟨hcm, -⟩
      · exact absurd (hs.bounded m _ hm) (by omega)
      · exact Command.expectAck.inj (hcn.symm.trans hcm)
  · rcases List.mem_cons.mp ho with rfl | ho
    · cases hevent
      obtain ⟨hp, hgone⟩ := exec_takePendingAck he
      refine ⟨(hs.bounded n channel hp).trans_le hle, fun m hm ↦ ?_⟩
      rcases exec_pends he hm with hold | ⟨hc, -⟩
      · rw [hs.distinct m n channel hold hp] at hm
        exact hgone hm
      · cases hc
    · obtain ⟨hchannel, hold⟩ := hs.taken o ho n channel hevent
      exact ⟨hchannel.trans_le hle, hnot hchannel hold⟩

/-- Whoever has a channel waits on it. -/
def Awaited (trace : List Step) (s : State) : Prop :=
  ∀ n channel, s.Pends n channel → ∃ o ∈ trace, o.event = ⟨.expectAck n, channel⟩

theorem Awaited.exec {trace : List Step} (hs : Awaited trace s) (he : exec P c i s = some (a, s'))
    (k : ℕ) : Awaited (⟨k, c, a, s, s'⟩ :: trace) s' := by
  intro n channel hp
  rcases exec_pends he hp with hp | ⟨rfl, rfl⟩
  · obtain ⟨o, ho, hevent⟩ := hs n channel hp
    exact ⟨o, List.mem_cons_of_mem _ ho, hevent⟩
  · refine ⟨_, List.mem_cons_self, ?_⟩
    simp only [Server.exec] at he
    split at he <;> cases he
    rfl

end

end Knust.Transport.Server
