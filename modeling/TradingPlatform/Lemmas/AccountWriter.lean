import TradingPlatform.Engine.AccountWriter
import TradingPlatform.Lib.Loops

/-!
# What a call does to the registry

No operation lowers a generation, and none writes to a file that is empty but `registry_path`. A capability passes only
against the record it names in full.
-/

namespace TradingPlatform

/-! ## Operations -/

/-- What `_assert_current` checks. -/
theorem assertCurrent_ok {current : AccountRecord} {capability : AccountWriterCapability} {observed : ℤ} {u : Unit}
    (h : assertCurrent current capability observed = .ok u) :
    current.accountScopeKey = some capability.accountScopeKey ∧
      current.boundDatabaseIdentity = some capability.databaseIdentity ∧ current.ownerId = some capability.ownerId ∧
      current.currentGeneration = capability.generation ∧ current.unexpired observed = true := by
  unfold assertCurrent at h
  split at h
  · nomatch h
  split at h
  · nomatch h
  split at h
  · nomatch h
  split at h
  · nomatch h
  rename_i hkey hdatabase howner hexpiry
  rw [not_or] at howner
  exact ⟨not_not.mp hkey, not_not.mp hdatabase, not_not.mp howner.1, not_not.mp howner.2, by simpa using hexpiry⟩

/-- What `bind_account` writes. -/
theorem bindAccount_ok {l : RegistryLocation} {r r' : Registries} {key databaseId operatorIdentity operatorReason : String}
    {now : ℤ} {value : AccountRecord} (h : bindAccount l r key databaseId operatorIdentity operatorReason now = .ok (value, r')) :
    r' = r.write l.file key value ∧ value.generation = (r.record l.file key).generation := by
  unfold bindAccount at h
  obtain ⟨metadata, -, h⟩ := Loops.bind_eq_ok.mp h
  dsimp only at h
  split at h
  · nomatch h
  · injection h with h
    injection h with hvalue hr
    subst hvalue
    exact ⟨hr.symm, rfl⟩

/-- What `rebind_account` writes under the lock. -/
theorem rebindLocked_ok {l : RegistryLocation} {r r' : Registries} {key databaseId : String}
    {metadata : OperatorBindingMetadata} {now : ℤ} {value : AccountRecord}
    (h : rebindLocked l r key databaseId metadata now = .ok (value, r')) :
    r' = r.write l.file key value ∧ value.generation = (r.record l.file key).generation ∧
      (r.record l.file key).unexpired now = false := by
  unfold rebindLocked at h
  dsimp only at h
  split at h
  · nomatch h
  split at h
  · nomatch h
  rename_i hexpiry
  injection h with h
  injection h with hvalue hr
  subst hvalue
  exact ⟨hr.symm, rfl, by simpa [AccountRecord.unexpired] using hexpiry⟩

theorem rebindAccount_ok {l : RegistryLocation} {r r' : Registries} {key databaseId operatorIdentity operatorReason : String}
    {flat ordersEmpty recoveryClear : Bool} {now : ℤ} {value : AccountRecord}
    (h : rebindAccount l r key databaseId operatorIdentity operatorReason flat ordersEmpty recoveryClear now =
      .ok (value, r')) :
    r' = r.write l.file key value ∧ value.generation = (r.record l.file key).generation := by
  unfold rebindAccount at h
  obtain ⟨metadata, -, h⟩ := Loops.bind_eq_ok.mp h
  obtain ⟨_, -, h⟩ := Loops.bind_eq_ok.mp h
  obtain ⟨hr, hgeneration, -⟩ := rebindLocked_ok h
  exact ⟨hr, hgeneration⟩

/-- The generation of a grant is at least the one before it. -/
theorem AccountRecord.le_nextGeneration (r : AccountRecord) (owner : String) (observed : ℤ) :
    r.currentGeneration ≤ r.nextGeneration owner observed := by
  unfold AccountRecord.nextGeneration
  split <;> omega

/-- What `acquire_account_writer` checks, grants and writes. -/
theorem acquireAccountWriter_ok {l : RegistryLocation} {r r' : Registries} {p : WriterProcess} {key databaseId : String}
    {ownerId : Option String} {leaseDuration observed : ℤ} {lease : AccountWriterLease}
    (h : acquireAccountWriter l r p key databaseId ownerId leaseDuration observed = .ok (lease, r')) :
    (∃ value, r' = r.write l.file key value ∧ value.currentGeneration = lease.capability.generation) ∧
      lease.capability.accountScopeKey = key ∧
      lease.capability.generation = (r.record l.file key).nextGeneration (p.owner ownerId) observed ∧
      ((r.record l.file key).unexpired observed = true → (r.record l.file key).existingOwner ≠ p.owner ownerId →
        deadLocalSupervisorOwner p (r.record l.file key).existingOwner = .dead) := by
  unfold acquireAccountWriter at h
  dsimp only at h
  split at h
  · nomatch h
  split at h
  · nomatch h
  split at h
  · nomatch h
  split at h
  · nomatch h
  rename_i hheld
  injection h with h
  injection h with hlease hr
  subst hlease
  refine ⟨⟨_, hr.symm, rfl⟩, rfl, rfl, ?_⟩
  intro hunexpired howner
  by_contra hdead
  exact hheld ⟨hunexpired, howner, hdead⟩

/-- What `renew_account_writer` checks and writes. -/
theorem renewAccountWriter_ok {l : RegistryLocation} {r : Registries} {lease : AccountWriterLease}
    {leaseDuration observed : ℤ} {out : AccountWriterLease × Registries}
    (h : renewAccountWriter l r lease leaseDuration observed = .ok out) :
    assertCurrent (r.current l lease.capability) lease.capability observed = .ok () ∧
      out.2 = r.write (l.resolve lease.capability.registryIdentity) lease.capability.accountScopeKey
        { r.current l lease.capability with
          leaseRenewedAt := some observed, leaseExpiresAt := some (observed + leaseDuration) } := by
  unfold renewAccountWriter at h
  obtain ⟨_, hcurrent, h⟩ := Loops.bind_eq_ok.mp h
  injection h with h
  subst h
  exact ⟨hcurrent, rfl⟩

/-- What `release_account_writer` checks and writes. -/
theorem releaseAccountWriter_ok {l : RegistryLocation} {r r' : Registries} {lease : AccountWriterLease} {now releasedAt : ℤ}
    (h : releaseAccountWriter l r lease now releasedAt = .ok r') :
    assertCurrent (r.current l lease.capability) lease.capability now = .ok () ∧
      r' = r.write (l.resolve lease.capability.registryIdentity) lease.capability.accountScopeKey
        { r.current l lease.capability with leaseExpiresAt := some releasedAt } := by
  unfold releaseAccountWriter at h
  obtain ⟨_, hcurrent, h⟩ := Loops.bind_eq_ok.mp h
  injection h with h
  exact ⟨hcurrent, h.symm⟩

/-- What `mutation_guard` checks. -/
theorem mutationGuard_ok {l : RegistryLocation} {r : Registries} {capability : AccountWriterCapability} {now : ℤ} {u : Unit}
    (h : mutationGuard l r capability now = .ok u) :
    l.resolve capability.registryIdentity = l.file ∧
      assertCurrent (r.record l.file capability.accountScopeKey) capability now = .ok () := by
  unfold mutationGuard Registries.current at h
  split at h
  · nomatch h
  · rename_i hfile
    rw [not_not] at hfile
    rw [hfile] at h
    exact ⟨hfile, h⟩

/-! ## One call -/

/-- What a call does to the registry: nothing, or it writes one record, of the same or a later generation, in the file of
`registry_path` or where a capability of the account passed. -/
theorem apply_cases (l : RegistryLocation) (r : Registries) (c : ℤ × WriterCall) :
    WriterCall.apply l r c = r ∨ ∃ path key value, WriterCall.apply l r c = r.write path key value ∧
      (r.record path key).currentGeneration ≤ value.currentGeneration ∧
      (path = l.file ∨ (r.record path key).accountScopeKey = some key) := by
  obtain ⟨now, c⟩ := c
  cases c with
  | bind key databaseId operatorIdentity operatorReason =>
    simp only [WriterCall.apply, keepOnRaise]
    split
    · exact .inl rfl
    · rename_i value r' h
      obtain ⟨hr, hgeneration⟩ := bindAccount_ok h
      refine .inr ⟨l.file, key, value, hr, le_of_eq ?_, .inl rfl⟩
      rw [AccountRecord.currentGeneration, AccountRecord.currentGeneration, hgeneration]
  | rebind key databaseId operatorIdentity operatorReason flat ordersEmpty recoveryClear =>
    simp only [WriterCall.apply, keepOnRaise]
    split
    · exact .inl rfl
    · rename_i value r' h
      obtain ⟨hr, hgeneration⟩ := rebindAccount_ok h
      refine .inr ⟨l.file, key, value, hr, le_of_eq ?_, .inl rfl⟩
      rw [AccountRecord.currentGeneration, AccountRecord.currentGeneration, hgeneration]
  | acquire process key databaseId ownerId leaseDuration observed =>
    simp only [WriterCall.apply, keepOnRaise]
    split
    · exact .inl rfl
    · rename_i lease r' h
      obtain ⟨⟨value, hr, hvalue⟩, -, hgeneration, -⟩ := acquireAccountWriter_ok h
      refine .inr ⟨l.file, key, value, hr, ?_, .inl rfl⟩
      rw [hvalue, hgeneration]
      exact AccountRecord.le_nextGeneration _ _ _
  | renew lease leaseDuration observed =>
    simp only [WriterCall.apply, keepOnRaise]
    split
    · exact .inl rfl
    · rename_i lease' r' h
      obtain ⟨hcurrent, hr⟩ := renewAccountWriter_ok h
      exact .inr ⟨_, _, _, hr, le_refl _, .inr (assertCurrent_ok hcurrent).1⟩
  | release lease releasedAt =>
    simp only [WriterCall.apply]
    cases h : releaseAccountWriter l r lease now releasedAt with
    | error e => exact .inl rfl
    | ok r' =>
      obtain ⟨hcurrent, hr⟩ := releaseAccountWriter_ok h
      exact .inr ⟨_, _, _, hr, le_refl _, .inr (assertCurrent_ok hcurrent).1⟩
  | guard capability => exact .inl rfl

/-! ## Generations -/

/-- No generation is lower than it was. -/
def Registries.Grows (r r' : Registries) : Prop :=
  ∀ path key, (r.record path key).currentGeneration ≤ (r'.record path key).currentGeneration

theorem Registries.Grows.refl (r : Registries) : r.Grows r := fun _ _ => le_refl _

theorem Registries.Grows.trans {r r' r'' : Registries} (h : r.Grows r') (h' : r'.Grows r'') : r.Grows r'' :=
  fun path key => (h path key).trans (h' path key)

/-- A call lowers no generation. -/
theorem apply_grows (l : RegistryLocation) (r : Registries) (c : ℤ × WriterCall) : r.Grows (WriterCall.apply l r c) := by
  rcases apply_cases l r c with h | ⟨path, key, value, h, hle, -⟩
  · rw [h]
    exact .refl r
  · rw [h]
    intro path' key'
    by_cases heq : path' = path ∧ key' = key
    · obtain ⟨rfl, rfl⟩ := heq
      rw [Registries.record_write_self]
      exact hle
    · rw [Registries.record_write_other heq]

/-- A run lowers no generation. -/
theorem runCalls_grows (l : RegistryLocation) (r : Registries) (calls : List (ℤ × WriterCall)) : r.Grows (runCalls l r calls) :=
  Loops.foldl_rel Registries.Grows.refl (fun _ _ _ => Registries.Grows.trans) (apply_grows l) calls r

/-! ## Foreign files -/

/-- Only the file of `registry_path` holds records. -/
def Registries.OnlyAt (r : Registries) (l : RegistryLocation) : Prop := ∀ path key, path ≠ l.file → r.record path key = {}

/-- A call writes to no other file: a capability does not pass against an empty record. -/
theorem apply_onlyAt {l : RegistryLocation} {r : Registries} (c : ℤ × WriterCall) (hr : r.OnlyAt l) :
    (WriterCall.apply l r c).OnlyAt l := by
  rcases apply_cases l r c with h | ⟨path, key, value, h, -, hplace⟩
  · rw [h]
    exact hr
  · rw [h]
    intro path' key' hpath
    have hne : ¬(path' = path ∧ key' = key) := by
      rintro ⟨rfl, rfl⟩
      rcases hplace with hfile | hkey
      · exact hpath hfile
      · rw [hr _ _ hpath] at hkey
        nomatch hkey
    rw [Registries.record_write_other hne]
    exact hr path' key' hpath

/-- A run writes to no other file. -/
theorem runCalls_onlyAt (l : RegistryLocation) (calls : List (ℤ × WriterCall)) : (runCalls l {} calls).OnlyAt l := by
  have hempty : Registries.OnlyAt {} l := fun _ _ _ => rfl
  exact Loops.foldl_keeps (P := fun r : Registries => r.OnlyAt l) (fun _ c h => apply_onlyAt c h) calls {} hempty

end TradingPlatform
