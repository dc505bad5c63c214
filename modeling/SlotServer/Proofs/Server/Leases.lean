import Mathlib.Data.List.Basic
import Mathlib.Data.List.Nodup
import SlotServer.Proofs.Server.Steps
import SlotServer.Proofs.Slots.Orderly

/-!
# Clients and their leases

Where slots are not released directly, the clients that are served and the live leases are the same,
in the same order: a client that is admitted brings a lease, and takes it away when it leaves.
-/

namespace SlotServer.Server

/-- The client that a step lets connect. -/
def Step.connecting? : Step → Option String
  | connect client _ => some client
  | _ => none

/-- The client as it is served, if it is. -/
def Client.served? : Client → Option Served
  | served client => some client
  | turnedAway => none

/-- The lease that a client holds, with its record. -/
def Served.held (client : Served) : Nat × ConnectionRecord :=
  (client.lease, client.record)

namespace Session

variable {σ : Type}

/-- The names of the clients. -/
def names (session : Session σ) : List String :=
  session.clients.map Prod.fst

/-- The clients that are served: those that were admitted and have not left. -/
def served (session : Session σ) : List Served :=
  session.clients.filterMap fun entry => entry.2.served?

variable {session : Session σ} {name : String} {client : Client}

/-! ## Names -/

/-- A name stands for one client. -/
theorem mem_clients_iff (hnodup : session.names.Nodup) :
    (name, client) ∈ session.clients ↔ session.client? name = some client := by
  rw [client?]
  rw [names] at hnodup
  generalize session.clients = clients at hnodup
  induction clients with
  | nil => simp
  | cons entry clients ih =>
      obtain ⟨n, old⟩ := entry
      rw [List.map_cons, List.nodup_cons] at hnodup
      rw [lookup_cons_eq_ite, List.mem_cons, ih hnodup.2]
      by_cases hname : name = n
      · subst hname
        have habsent : clients.lookup name ≠ some client := by
          intro h
          exact hnodup.1 (List.mem_map.mpr ⟨_, (ih hnodup.2).mpr h, rfl⟩)
        simp [habsent, eq_comm]
      · simp [hname]

theorem client?_eq_none_iff : session.client? name = none ↔ name ∉ session.names := by
  simp only [client?, names]
  induction session.clients with
  | nil => simp
  | cons entry clients ih =>
      obtain ⟨n, old⟩ := entry
      rw [lookup_cons_eq_ite]
      by_cases hname : name = n <;> simp [hname, ih]

theorem names_update : (session.update name client).names = session.names := by
  simp [names, update, Function.comp_def]

theorem names_without : (session.without name).names.Sublist session.names :=
  List.filter_sublist.map _

/-! ## Served clients -/

theorem served_connected {next : Session σ}
    (h : next.clients = session.clients ++ [(name, client)]) :
    next.served = session.served ++ client.served?.toList := by
  cases client <;> simp [served, h, Client.served?]

section Picked

variable {β : Type} (f : String × Client → Option β) {old new : Client}

/-- What is picked of the clients is kept by a change of a client of which the same is picked. -/
theorem filterMap_update (hnodup : session.names.Nodup) (h : session.client? name = some old)
    (hf : f (name, new) = f (name, old)) :
    (session.update name new).clients.filterMap f = session.clients.filterMap f := by
  simp only [update, List.filterMap_map]
  refine List.filterMap_congr ?_
  rintro ⟨n, entry⟩ hmem
  by_cases hn : n = name
  · subst hn
    have hentry := (mem_clients_iff hnodup).mp hmem
    rw [h] at hentry
    obtain rfl : old = entry := Option.some.inj hentry
    simpa using hf
  · simp [hn]

theorem filterMap_without (hnodup : session.names.Nodup) (h : session.client? name = some old)
    (hf : f (name, old) = none) :
    (session.without name).clients.filterMap f = session.clients.filterMap f := by
  simp only [without, List.filterMap_filter]
  refine List.filterMap_congr ?_
  rintro ⟨n, entry⟩ hmem
  by_cases hn : n = name
  · subst hn
    have hentry := (mem_clients_iff hnodup).mp hmem
    rw [h] at hentry
    obtain rfl : old = entry := Option.some.inj hentry
    simp [hf]
  · simp [hn]

end Picked

/-- A change of a client that keeps its lease keeps the leases of all. -/
theorem held_update (hnodup : session.names.Nodup) {old new : Served}
    (h : session.client? name = some (.served old)) (hheld : new.held = old.held) :
    (session.update name (.served new)).served.map Served.held =
      session.served.map Served.held := by
  simp only [served, List.map_filterMap]
  refine filterMap_update _ hnodup h ?_
  simp [Client.served?, hheld]

theorem served_without_turnedAway (hnodup : session.names.Nodup)
    (h : session.client? name = some .turnedAway) :
    (session.without name).served = session.served :=
  filterMap_without _ hnodup h rfl

/-- No two clients hold the same lease. -/
theorem name_eq_of_lease_eq (hleases : (session.served.map Served.lease).Nodup)
    {other : String} {first second : Served} (hfirst : (name, .served first) ∈ session.clients)
    (hsecond : (other, .served second) ∈ session.clients) (h : first.lease = second.lease) :
    name = other := by
  let pairs := session.clients.filterMap fun entry => entry.2.served?.map (entry.1, ·)
  have hpairs : session.served.map Served.lease = pairs.map fun pair => pair.2.lease := by
    simp only [served, pairs, List.map_filterMap, Option.map_map]
    rfl
  rw [hpairs] at hleases
  have hmem : ∀ {n : String} {client : Served},
      (n, .served client) ∈ session.clients → (n, client) ∈ pairs := by
    intro n client hclient
    exact List.mem_filterMap.mpr ⟨_, hclient, rfl⟩
  exact congrArg Prod.fst (List.inj_on_of_nodup_map hleases (hmem hfirst) (hmem hsecond) h)

/-- A client that leaves takes its lease away, and no other. -/
theorem held_without (hnodup : session.names.Nodup)
    (hleases : (session.served.map Served.lease).Nodup) {old : Served}
    (h : session.client? name = some (.served old)) :
    (session.without name).served.map Served.held =
      (session.served.map Served.held).filter fun held => held.1 != old.lease := by
  have hold := (mem_clients_iff hnodup).mpr h
  simp only [served, without, List.map_filterMap, List.filterMap_filter, List.filter_filterMap]
  refine List.filterMap_congr ?_
  rintro ⟨n, entry⟩ hmem
  cases entry with
  | turnedAway => simp [Client.served?]
  | served client =>
      by_cases hn : n = name
      · subst hn
        have hentry := (mem_clients_iff hnodup).mp hmem
        rw [h] at hentry
        obtain rfl : old = client := by simpa using hentry
        simp [Client.served?, Served.held, Option.filter]
      · have hlease : client.lease ≠ old.lease := by
          intro heq
          exact hn (name_eq_of_lease_eq hleases hmem hold heq)
        simp [Client.served?, Served.held, Option.filter, hn, hlease]

/-- Serving a client leaves it its lease. -/
theorem held_deliver (session : Session σ) (host : Capabilities σ) (bufferSize : Nat)
    (name : String) (served : Served) (bytes : Bytes) (delivery : Delivery) :
    (session.deliver host bufferSize name served bytes delivery).1.held = served.held := by
  simp only [deliver, servePieces_value]
  rfl

/-! ## Accounting for clients -/

/-- Whoever connects in a run of steps has a name of its own among the clients there. -/
def Fresh (host : Capabilities σ) (bufferSize : Nat) (session : Session σ) : List Step → Prop
  | [] => True
  | step :: steps =>
    (∀ name ∈ step.connecting?, session.client? name = none) ∧
      (session.step host bufferSize step).session.Fresh host bufferSize steps

instance decidableFresh (host : Capabilities σ) (bufferSize : Nat) :
    (session : Session σ) → (steps : List Step) → Decidable (session.Fresh host bufferSize steps)
  | _, [] => inferInstanceAs (Decidable True)
  | session, step :: steps =>
    have := decidableFresh host bufferSize (session.step host bufferSize step).session steps
    inferInstanceAs (Decidable ((∀ name ∈ step.connecting?, session.client? name = none) ∧
      (session.step host bufferSize step).session.Fresh host bufferSize steps))

/-- The clients that are served account for the live leases, in the order in which both came. -/
structure Accounted (capacity : Nat) (session : Session σ) : Prop where
  orderly : session.slots.Orderly capacity
  names_nodup : session.names.Nodup
  held_eq : session.served.map Served.held = session.slots.numbered

namespace Accounted

variable {capacity : Nat} {served : Served}

theorem leases_nodup (h : Accounted capacity session) :
    (session.served.map Served.lease).Nodup := by
  have hleases : session.served.map Served.lease = session.slots.numbered.map Prod.fst := by
    rw [← h.held_eq, List.map_map]
    rfl
  rw [hleases, List.nodup_iff_pairwise_ne, List.pairwise_map]
  exact session.slots.numbered_pairwise.imp Nat.ne_of_lt

theorem records_eq (h : Accounted capacity session) :
    session.served.map Served.record = session.slots.liveLeases := by
  rw [← LeasedTable.map_snd_numbered, ← h.held_eq, List.map_map]
  rfl

/-- As many slots are held as clients are served. -/
theorem active_eq (h : Accounted capacity session) : session.active = session.served.length := by
  rw [active, h.orderly.activeCount_eq, ← h.records_eq, List.length_map]

theorem active_le (h : Accounted capacity session) : session.active ≤ capacity :=
  h.orderly.consistent.activeCount_le

/-- A slot is held by the record of a client that is served, and by no other. -/
theorem record?_eq_some_iff (h : Accounted capacity session) (slot : Nat)
    (record : ConnectionRecord) :
    session.slots.table.record? slot = some record ↔
      record.slot = slot ∧ ∃ client ∈ session.served, client.record = record := by
  rw [← List.mem_map, h.records_eq, LeasedTable.mem_liveLeases_iff]
  constructor
  · exact h.orderly.backed
  · rintro ⟨rfl, lease, hlive⟩
    exact h.orderly.record?_eq hlive

/-- The lease of a client is live. -/
theorem lease?_eq (h : Accounted capacity session)
    (hclient : session.client? name = some (.served served)) :
    session.slots.lease? served.lease = some served.record := by
  have hserved : served ∈ session.served :=
    List.mem_filterMap.mpr ⟨_, (mem_clients_iff h.names_nodup).mpr hclient, rfl⟩
  rw [← LeasedTable.mem_numbered_iff, ← h.held_eq]
  exact List.mem_map.mpr ⟨served, hserved, rfl⟩

theorem new (address : SocketAddress) (reachable : Bool) (config : Config) (state : σ) :
    Accounted config.maxConnections.toNat (Session.new address reachable config state) where
  orderly := .new _
  names_nodup := List.nodup_nil
  held_eq := by
    rw [Session.new, LeasedTable.numbered]
    rfl

/-! ## What happens to a client -/

theorem connect {peer : Option IpAddress} {progress : Progress σ} (h : Accounted capacity session)
    (hname : session.client? name = none) (hconnects : Connects session name peer progress) :
    Accounted capacity progress.session := by
  have hnames : (session.names ++ [name]).Nodup := by
    rw [← List.concat_eq_append]
    exact h.names_nodup.concat (client?_eq_none_iff.mp hname)
  cases hconnects with
  | unreachable _ | refused _ _ => exact h
  | admitted _ _ ha =>
      refine ⟨h.orderly.performs (.leased ha) rfl, ?_, ?_⟩
      · simpa [names] using hnames
      · rw [served_connected rfl, List.map_append, h.held_eq, LeasedTable.numbered_append]
        rfl
  | turnedAway _ _ _ =>
      refine ⟨h.orderly, ?_, ?_⟩
      · simpa [names] using hnames
      · rw [served_connected rfl]
        simpa [Client.served?] using h.held_eq

theorem update (h : Accounted capacity session) {old new : Served}
    (hclient : session.client? name = some (.served old)) (hheld : new.held = old.held) :
    Accounted capacity (session.update name (.served new)) where
  orderly := h.orderly
  names_nodup := by
    rw [names_update]
    exact h.names_nodup
  held_eq := (held_update h.names_nodup hclient hheld).trans h.held_eq

theorem deliver (h : Accounted capacity session) (host : Capabilities σ) (bufferSize : Nat)
    (hclient : session.client? name = some (.served served)) (bytes : Bytes)
    (delivery : Delivery) :
    Accounted capacity (session.deliver host bufferSize name served bytes delivery).2.session := by
  have hupdated :=
    h.update hclient (held_deliver session host bufferSize name served bytes delivery)
  exact ⟨hupdated.orderly, hupdated.names_nodup, hupdated.held_eq⟩

theorem readReply (h : Accounted capacity session)
    (hclient : session.client? name = some (.served served)) :
    Accounted capacity (session.readReply name served).1 := by
  unfold Session.readReply
  split
  · exact h
  · exact h.update hclient rfl

theorem without_turnedAway (h : Accounted capacity session)
    (hclient : session.client? name = some .turnedAway) :
    Accounted capacity (session.without name) where
  orderly := h.orderly
  names_nodup := h.names_nodup.sublist names_without
  held_eq := by
    rw [served_without_turnedAway h.names_nodup hclient]
    exact h.held_eq

/-- A client that leaves gives its slot back. -/
theorem leave (h : Accounted capacity session) (host : Capabilities σ) (bufferSize : Nat)
    (hclient : session.client? name = some (.served served)) (reads : ReadScript)
    (writes : WriteScript) :
    Accounted capacity (session.leave host bufferSize name served reads writes).session := by
  have hlive := h.lease?_eq hclient
  obtain ⟨table, hdrop⟩ := h.orderly.step_drop hlive
  have hperforms := LeasedTable.step_performs session.slots (.drop served.lease)
  rw [hdrop] at hperforms
  refine ⟨?_, h.names_nodup.sublist names_without, ?_⟩
  · have horderly := h.orderly.performs hperforms rfl
    simpa [Session.leave, without, hdrop] using horderly
  · calc
      (session.leave host bufferSize name served reads writes).session.served.map Served.held =
          (session.without name).served.map Served.held := rfl
      _ = (session.served.map Served.held).filter fun held => held.1 != served.lease :=
        held_without h.names_nodup h.leases_nodup hclient
      _ = session.slots.numbered.filter fun held => held.1 != served.lease := by rw [h.held_eq]
      _ = (LeasedTable.mk table (session.slots.leases.set served.lease none)).numbered :=
        (LeasedTable.numbered_set_none session.slots table served.lease).symm
      _ = (session.leave host bufferSize name served reads writes).session.slots.numbered := by
        simp [Session.leave, without, hdrop]

/-! ## Steps and runs -/

section Runs

variable (host : Capabilities σ) (bufferSize : Nat)

theorem step (h : Accounted capacity session) {step : Step}
    (hrelease : ∀ slot, step ≠ .release slot)
    (hfresh : ∀ name ∈ step.connecting?, session.client? name = none) :
    Accounted capacity (session.step host bufferSize step).session := by
  have hsteps := step_steps session host bufferSize step
  generalize session.step host bufferSize step = progress at hsteps
  cases hsteps with
  | connect hconnects => exact h.connect (hfresh _ rfl) hconnects
  | nothing _ => exact h
  | givenUp _ _ hclient => exact h.without_turnedAway hclient
  | exchange _ hclient hsent hread =>
      subst hsent hread
      refine (h.deliver host bufferSize hclient _ _).readReply ?_
      simp [client?_deliver, hclient]
  | leave _ _ hclient => exact h.leave host bufferSize hclient _ _
  | release => exact absurd rfl (hrelease _)
  | stop _ => exact ⟨h.orderly, h.names_nodup, h.held_eq⟩

theorem reached (h : Accounted capacity session) {steps : List Step}
    (hrelease : ∀ slot, .release slot ∉ steps) (hfresh : session.Fresh host bufferSize steps) :
    Accounted capacity (session.reached host bufferSize steps) := by
  induction steps generalizing session with
  | nil => exact h
  | cons step steps ih =>
      obtain ⟨hstep, hrest⟩ := hfresh
      obtain ⟨hfirst, hlater⟩ := Step.notMem_cons hrelease
      rw [reached_cons]
      exact ih (h.step host bufferSize hfirst hstep) hlater hrest

end Runs

end Accounted

end Session

end SlotServer.Server
