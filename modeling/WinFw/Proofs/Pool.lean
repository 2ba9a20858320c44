import WinFw.Model.Rules
import Mathlib.Data.List.Nodup

/-! # The pooled loop

A `Pool.loop` over endpoints that fit the pool, at most `maxAllowedEndpoints` of each family,
never reads past a key array and never reaches its bound check: it adds one filter per endpoint,
in order, exactly as `installFilters` of `Pool.filters` does, and the filter of the endpoint that
is the `k`-th of its family carries key `k` of that family's array. When a family overflows the
pool, the loop never returns `true`, whatever the engine answers.
-/

namespace WinFw

namespace Pool

variable {E : Type} (pool : Pool E)

/-- How many of `endpoints` are of family `type`. -/
def count (type : AddressType) (endpoints : List E) : Nat :=
  endpoints.countP fun endpoint => (pool.ip endpoint).type == type

/-- The loop's counter for family `type`. -/
def counter : AddressType → Nat → Nat → Nat
  | .ipv4, ipv4Count, _ => ipv4Count
  | .ipv6, _, ipv6Count => ipv6Count

/-- The key array of family `type`. -/
def guids : AddressType → List GUID
  | .ipv4 => pool.ipv4Guids
  | .ipv6 => pool.ipv6Guids

/-- The filter builder of family `type`. -/
def filter : AddressType → E → GUID → Filter
  | .ipv4 => pool.ipv4Filter
  | .ipv6 => pool.ipv6Filter

/-- From the counters on, no family of `endpoints` outgrows the pool. -/
def Fits (endpoints : List E) (ipv4Count ipv6Count : Nat) : Prop :=
  ∀ type, counter type ipv4Count ipv6Count + pool.count type endpoints ≤ pool.maxAllowedEndpoints

@[simp] theorem count_nil (type : AddressType) : pool.count type [] = 0 := rfl

@[simp] theorem counter_zero (type : AddressType) : counter type 0 0 = 0 := by cases type <;> rfl

theorem count_cons (type : AddressType) (endpoint : E) (rest : List E) :
    pool.count type (endpoint :: rest) =
      pool.count type rest + if (pool.ip endpoint).type = type then 1 else 0 := by
  simp [count, List.countP_cons]

theorem fits_ipv4 {endpoint : E} {rest : List E} {ipv4Count ipv6Count : Nat}
    (family : (pool.ip endpoint).type = .ipv4) (fits : pool.Fits (endpoint :: rest) ipv4Count ipv6Count) :
    ipv4Count < pool.maxAllowedEndpoints ∧ pool.Fits rest (ipv4Count + 1) ipv6Count := by
  have four := fits .ipv4
  have six := fits .ipv6
  simp only [count_cons, family, counter, if_true, reduceCtorEq, if_false] at four six
  refine ⟨by omega, fun type => ?_⟩
  cases type <;> simp only [counter] <;> omega

theorem fits_ipv6 {endpoint : E} {rest : List E} {ipv4Count ipv6Count : Nat}
    (family : (pool.ip endpoint).type = .ipv6) (fits : pool.Fits (endpoint :: rest) ipv4Count ipv6Count) :
    ipv6Count < pool.maxAllowedEndpoints ∧ pool.Fits rest ipv4Count (ipv6Count + 1) := by
  have four := fits .ipv4
  have six := fits .ipv6
  simp only [count_cons, family, counter, if_true, reduceCtorEq, if_false] at four six
  refine ⟨by omega, fun type => ?_⟩
  cases type <;> simp only [counter] <;> omega

variable (engine : Engine)

/-- Below the pool size, an iteration reads a key, adds its filter and goes on. -/
theorem step_of_lt {array message : String} {guids : List GUID} {count : Nat} {key : GUID}
    {filter : GUID → Filter} {next : Installer Bool} (bound : count < pool.maxAllowedEndpoints)
    (read : guids[count]? = some key) :
    pool.step engine array message guids count filter next =
      (addFilter engine (filter key)).andThen next := by
  have continues : (fun added => if count == pool.maxAllowedEndpoints then
      (.error (.error message) : Except FwError (Bool × List ObjectRecord)) else next added) = next :=
    funext fun _ => if_neg (by simpa using Nat.ne_of_lt bound)
  funext records
  simp only [step, readGuid, read, continues]

/-- Endpoints that fit the pool are installed one filter each, in order. -/
theorem loop_eq_installFilters (endpoints : List E) (ipv4Count ipv6Count : Nat)
    (fits : pool.Fits endpoints ipv4Count ipv6Count) :
    pool.loop engine endpoints ipv4Count ipv6Count =
      installFilters engine (pool.filters endpoints ipv4Count ipv6Count) := by
  induction endpoints generalizing ipv4Count ipv6Count with
  | nil => rfl
  | cons endpoint rest ih =>
    cases family : (pool.ip endpoint).type with
    | ipv4 =>
      obtain ⟨bound, fitsRest⟩ := pool.fits_ipv4 family fits
      have read := List.getElem?_eq_getElem (pool.ipv4Guids_length ▸ bound)
      simp only [loop, filters, family, read, step_of_lt pool engine bound read,
        ih _ _ fitsRest]
      rfl
    | ipv6 =>
      obtain ⟨bound, fitsRest⟩ := pool.fits_ipv6 family fits
      have read := List.getElem?_eq_getElem (pool.ipv6Guids_length ▸ bound)
      simp only [loop, filters, family, read, step_of_lt pool engine bound read,
        ih _ _ fitsRest]
      rfl

/-- Beyond the pool size, an iteration never returns `true`: it aborts at the read. -/
theorem step_not_true {array message : String} {guids : List GUID} {count : Nat}
    {filter : GUID → Filter} {next : Installer Bool} (bound : pool.maxAllowedEndpoints ≤ count)
    (length : guids.length = pool.maxAllowedEndpoints) (records after : List ObjectRecord) :
    pool.step engine array message guids count filter next records ≠ .ok (true, after) := by
  simp [step, readGuid, List.getElem?_eq_none (length ▸ bound)]

/-- An iteration returns `true` only below the pool size and through its `next`. -/
theorem step_true {array message : String} {guids : List GUID} {count : Nat}
    {filter : GUID → Filter} {next : Installer Bool} {records after : List ObjectRecord}
    (length : guids.length = pool.maxAllowedEndpoints)
    (success : pool.step engine array message guids count filter next records = .ok (true, after)) :
    count < pool.maxAllowedEndpoints ∧ ∃ added, next added = .ok (true, after) := by
  by_cases bound : count < pool.maxAllowedEndpoints
  · rw [step_of_lt pool engine bound (List.getElem?_eq_getElem (length ▸ bound))] at success
    obtain ⟨added, -, continued⟩ := Installer.andThen_true success
    exact ⟨bound, added, continued⟩
  · exact absurd success (pool.step_not_true engine (by omega) length _ _)

/-- A loop that returns `true` ran over endpoints that fit the pool. -/
theorem fits_of_loop_true {endpoints : List E} {ipv4Count ipv6Count : Nat}
    {records after : List ObjectRecord}
    (start : ∀ type, counter type ipv4Count ipv6Count ≤ pool.maxAllowedEndpoints)
    (success : pool.loop engine endpoints ipv4Count ipv6Count records = .ok (true, after)) :
    pool.Fits endpoints ipv4Count ipv6Count := by
  induction endpoints generalizing ipv4Count ipv6Count records with
  | nil => simpa [Fits] using start
  | cons endpoint rest ih =>
    have four := start .ipv4
    have six := start .ipv6
    simp only [counter] at four six
    cases family : (pool.ip endpoint).type with
    | ipv4 =>
      simp only [loop, family] at success
      obtain ⟨bound, added, continued⟩ := pool.step_true engine pool.ipv4Guids_length success
      have fitsRest := ih (fun type => by cases type <;> simp only [counter] <;> omega) continued
      intro type
      have := fitsRest type
      cases type <;> simp only [counter, count_cons, family, if_true, reduceCtorEq, if_false] at this ⊢ <;>
        omega
    | ipv6 =>
      simp only [loop, family] at success
      obtain ⟨bound, added, continued⟩ := pool.step_true engine pool.ipv6Guids_length success
      have fitsRest := ih (fun type => by cases type <;> simp only [counter] <;> omega) continued
      intro type
      have := fitsRest type
      cases type <;> simp only [counter, count_cons, family, if_true, reduceCtorEq, if_false] at this ⊢ <;>
        omega

/-- A pooled rule that returned `true` fit its pool and added exactly `Pool.filters`. -/
theorem loop_true {endpoints : List E} {records after : List ObjectRecord}
    (success : pool.loop engine endpoints 0 0 records = .ok (true, after)) :
    pool.Fits endpoints 0 0 ∧ after = records ++ (pool.filters endpoints 0 0).map .filter := by
  have fits := pool.fits_of_loop_true engine (fun type => by cases type <;> simp [counter]) success
  rw [pool.loop_eq_installFilters engine endpoints 0 0 fits] at success
  exact ⟨fits, installFilters_true success⟩

/-- Over endpoints that fit the pool, `Pool.filters` has one filter per endpoint. -/
theorem filters_length {endpoints : List E} {ipv4Count ipv6Count : Nat}
    (fits : pool.Fits endpoints ipv4Count ipv6Count) :
    (pool.filters endpoints ipv4Count ipv6Count).length = endpoints.length := by
  induction endpoints generalizing ipv4Count ipv6Count with
  | nil => rfl
  | cons endpoint rest ih =>
    cases family : (pool.ip endpoint).type with
    | ipv4 =>
      obtain ⟨bound, fitsRest⟩ := pool.fits_ipv4 family fits
      simp [filters, family, List.getElem?_eq_getElem (pool.ipv4Guids_length ▸ bound), ih fitsRest]
    | ipv6 =>
      obtain ⟨bound, fitsRest⟩ := pool.fits_ipv6 family fits
      simp [filters, family, List.getElem?_eq_getElem (pool.ipv6Guids_length ▸ bound), ih fitsRest]

/-- The counter of a family moves only past endpoints of that family. -/
theorem counter_add_count_ipv4 {endpoint : E} (family : (pool.ip endpoint).type = .ipv4)
    (type : AddressType) (rest : List E) (ipv4Count ipv6Count : Nat) :
    counter type ipv4Count ipv6Count + pool.count type (endpoint :: rest) =
      counter type (ipv4Count + 1) ipv6Count + pool.count type rest := by
  cases type <;> simp only [counter, count_cons, family, if_true, reduceCtorEq, if_false] <;> omega

theorem counter_add_count_ipv6 {endpoint : E} (family : (pool.ip endpoint).type = .ipv6)
    (type : AddressType) (rest : List E) (ipv4Count ipv6Count : Nat) :
    counter type ipv4Count ipv6Count + pool.count type (endpoint :: rest) =
      counter type ipv4Count (ipv6Count + 1) + pool.count type rest := by
  cases type <;> simp only [counter, count_cons, family, if_true, reduceCtorEq, if_false] <;> omega

/-- The filter of the `i`-th endpoint carries the key whose index is the number of endpoints of
the same family before it, counted from the family's counter. -/
theorem filters_getElem? {endpoints : List E} {ipv4Count ipv6Count : Nat}
    (fits : pool.Fits endpoints ipv4Count ipv6Count) {i : Nat} (index : i < endpoints.length) :
    ∃ key, (pool.guids (pool.ip endpoints[i]).type)[counter (pool.ip endpoints[i]).type
        ipv4Count ipv6Count + pool.count (pool.ip endpoints[i]).type (endpoints.take i)]? = some key ∧
      (pool.filters endpoints ipv4Count ipv6Count)[i]? =
        some (pool.filter (pool.ip endpoints[i]).type endpoints[i] key) := by
  induction endpoints generalizing i ipv4Count ipv6Count with
  | nil => exact absurd index (by simp)
  | cons endpoint rest ih =>
    cases i with
    | zero =>
      cases family : (pool.ip endpoint).type with
      | ipv4 =>
        obtain ⟨bound, -⟩ := pool.fits_ipv4 family fits
        have inPool : ipv4Count < pool.ipv4Guids.length := pool.ipv4Guids_length ▸ bound
        have read := List.getElem?_eq_getElem inPool
        exact ⟨pool.ipv4Guids[ipv4Count], by simp [family, guids, counter, read],
          by simp [filters, family, read, filter]⟩
      | ipv6 =>
        obtain ⟨bound, -⟩ := pool.fits_ipv6 family fits
        have inPool : ipv6Count < pool.ipv6Guids.length := pool.ipv6Guids_length ▸ bound
        have read := List.getElem?_eq_getElem inPool
        exact ⟨pool.ipv6Guids[ipv6Count], by simp [family, guids, counter, read],
          by simp [filters, family, read, filter]⟩
    | succ j =>
      have inRest : j < rest.length := by simpa using index
      cases family : (pool.ip endpoint).type with
      | ipv4 =>
        obtain ⟨bound, fitsRest⟩ := pool.fits_ipv4 family fits
        have read := List.getElem?_eq_getElem (pool.ipv4Guids_length ▸ bound)
        obtain ⟨key, keyed, filtered⟩ := ih fitsRest inRest
        have shift := pool.counter_add_count_ipv4 family (pool.ip rest[j]).type (rest.take j)
          ipv4Count ipv6Count
        refine ⟨key, ?_, by simpa [filters, family, read] using filtered⟩
        simpa [shift] using keyed
      | ipv6 =>
        obtain ⟨bound, fitsRest⟩ := pool.fits_ipv6 family fits
        have read := List.getElem?_eq_getElem (pool.ipv6Guids_length ▸ bound)
        obtain ⟨key, keyed, filtered⟩ := ih fitsRest inRest
        have shift := pool.counter_add_count_ipv6 family (pool.ip rest[j]).type (rest.take j)
          ipv4Count ipv6Count
        refine ⟨key, ?_, by simpa [filters, family, read] using filtered⟩
        simpa [shift] using keyed

/-- Every filter of `Pool.filters` has its key at or past the counters in its family's array. -/
theorem filters_key_mem (keyed4 : ∀ endpoint key, (pool.ipv4Filter endpoint key).key = key)
    (keyed6 : ∀ endpoint key, (pool.ipv6Filter endpoint key).key = key)
    {endpoints : List E} {ipv4Count ipv6Count : Nat} :
    ∀ filter ∈ pool.filters endpoints ipv4Count ipv6Count,
      filter.key ∈ pool.ipv4Guids.drop ipv4Count ∨ filter.key ∈ pool.ipv6Guids.drop ipv6Count := by
  induction endpoints generalizing ipv4Count ipv6Count with
  | nil => simp [filters]
  | cons endpoint rest ih =>
    cases family : (pool.ip endpoint).type with
    | ipv4 =>
      cases read : pool.ipv4Guids[ipv4Count]? with
      | none => simp [filters, family, read]
      | some key =>
        obtain ⟨inPool, rfl⟩ := List.getElem?_eq_some_iff.mp read
        simp only [filters, family, read, List.mem_cons, forall_eq_or_imp]
        rw [keyed4, List.drop_eq_getElem_cons inPool]
        exact ⟨.inl (List.mem_cons_self _ _),
          fun filter member => (ih filter member).imp_left (List.mem_cons_of_mem _)⟩
    | ipv6 =>
      cases read : pool.ipv6Guids[ipv6Count]? with
      | none => simp [filters, family, read]
      | some key =>
        obtain ⟨inPool, rfl⟩ := List.getElem?_eq_some_iff.mp read
        simp only [filters, family, read, List.mem_cons, forall_eq_or_imp]
        rw [keyed6, List.drop_eq_getElem_cons inPool]
        exact ⟨.inr (List.mem_cons_self _ _),
          fun filter member => (ih filter member).imp_right (List.mem_cons_of_mem _)⟩

/-- The key read at a counter is not among the keys past it, nor in the other family's array. -/
private theorem key_fresh {own other : List GUID} {count : Nat} (inPool : count < own.length)
    (distinct : own.Nodup) (disjoint : own.Disjoint other) (otherCount : Nat) :
    own[count] ∉ own.drop (count + 1) ∧ own[count] ∉ other.drop otherCount := by
  have tail := (List.drop_sublist count own).nodup distinct
  rw [List.drop_eq_getElem_cons inPool] at tail
  exact ⟨(List.nodup_cons.mp tail).1,
    fun later => disjoint (List.getElem_mem inPool) (List.mem_of_mem_drop later)⟩

/-- With pairwise distinct keys in the two arrays, the filters of one `apply` have pairwise
distinct keys. -/
theorem filters_keys_nodup (keyed4 : ∀ endpoint key, (pool.ipv4Filter endpoint key).key = key)
    (keyed6 : ∀ endpoint key, (pool.ipv6Filter endpoint key).key = key)
    (distinct : (pool.ipv4Guids ++ pool.ipv6Guids).Nodup) {endpoints : List E}
    {ipv4Count ipv6Count : Nat} :
    ((pool.filters endpoints ipv4Count ipv6Count).map Filter.key).Nodup := by
  have disjoint := List.disjoint_of_nodup_append distinct
  induction endpoints generalizing ipv4Count ipv6Count with
  | nil => simp [filters]
  | cons endpoint rest ih =>
    cases family : (pool.ip endpoint).type with
    | ipv4 =>
      cases read : pool.ipv4Guids[ipv4Count]? with
      | none => simp [filters, family, read]
      | some key =>
        obtain ⟨inPool, rfl⟩ := List.getElem?_eq_some_iff.mp read
        have fresh := key_fresh inPool distinct.of_append_left disjoint ipv6Count
        simp only [filters, family, read, List.map_cons, List.nodup_cons, List.mem_map, keyed4]
        refine ⟨?_, ih⟩
        rintro ⟨filter, member, same⟩
        rcases pool.filters_key_mem keyed4 keyed6 filter member with later | other
        · exact fresh.1 (same ▸ later)
        · exact fresh.2 (same ▸ other)
    | ipv6 =>
      cases read : pool.ipv6Guids[ipv6Count]? with
      | none => simp [filters, family, read]
      | some key =>
        obtain ⟨inPool, rfl⟩ := List.getElem?_eq_some_iff.mp read
        have fresh := key_fresh inPool distinct.of_append_right (List.disjoint_comm.mp disjoint)
          ipv4Count
        simp only [filters, family, read, List.map_cons, List.nodup_cons, List.mem_map, keyed6]
        refine ⟨?_, ih⟩
        rintro ⟨filter, member, same⟩
        rcases pool.filters_key_mem keyed4 keyed6 filter member with other | later
        · exact fresh.2 (same ▸ other)
        · exact fresh.1 (same ▸ later)

end Pool

end WinFw
