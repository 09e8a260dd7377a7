import RestCall.Client.Assembly
import RestCall.Proofs.Manifest.Operations
import RestCall.Proofs.Operation.Catalogue
/-!
# RestCall — clients that can be built

A client is built when its operations can be entered, its endpoint passes
and every operation passes its check (`build_eq_ok_iff`). The operations
are those of the manifests, one manifest after another, and then those
given beside them. They are entered exactly when no id occurs twice, be it
in one manifest, in two, or beside them (`no_shadowing`).
-/

namespace RestCall

namespace Assembly

variable {a : Assembly} {env : Environment} {client : Client} {c : Catalogue}
variable {ms : List Manifest} {own : List (List Operation)} {os : List Operation}

/-! ## What building comes to -/

/-- Whether a client is what an assembly is built to. -/
structure Builds (a : Assembly) (env : Environment) (client : Client) : Prop where
  catalogue : a.catalogue = .ok client.catalogue
  endpoint : a.checkedEndpoint (a.settings.override env) client.catalogue = .ok client.endpoint
  checked : ∀ o ∈ client.catalogue.operations, a.checkOperation o = .ok ()
  transport : a.hasTransport = false → (a.settings.override env).transport.check = .ok ()
  serializers : client.serializers = a.serializers
  filters : client.filters = a.filters
  resolver : client.resolver = a.resolver
  retry : client.retry = a.policy (a.settings.override env)

/-- **A client is built** from stages that have all succeeded. -/
theorem build_eq_ok_iff : a.build env = .ok client ↔ a.Builds env client := by
  rw [build]
  simp only [bind_eq_ok_iff, declared, mapError_eq_ok_iff]
  constructor
  · rintro ⟨catalogue, hcatalogue, endpoint, hendpoint, ⟨⟩, hchecked, hrest⟩
    have hchecks := forM_eq_ok_iff.1 hchecked
    cases htransport : a.hasTransport with
    | true =>
      rw [htransport] at hrest
      cases hrest
      exact ⟨hcatalogue, hendpoint, hchecks, fun hnone => (by cases htransport.symm.trans hnone),
        rfl, rfl, rfl, rfl⟩
    | false =>
      rw [htransport] at hrest
      obtain ⟨⟨⟩, hcheck, hclient⟩ := bind_eq_ok_iff.1 hrest
      cases hclient
      exact ⟨hcatalogue, hendpoint, hchecks, fun _ => mapError_eq_ok_iff.1 hcheck,
        rfl, rfl, rfl, rfl⟩
  · intro h
    obtain ⟨catalogue, endpoint, serializers, filters, resolver, retry⟩ := client
    obtain ⟨hcatalogue, hendpoint, hchecks, htransport, hserializers, hfilters, hresolver,
      hretry⟩ := h
    dsimp only at hserializers hfilters hresolver hretry
    subst hserializers hfilters hresolver hretry
    refine ⟨catalogue, hcatalogue, endpoint, hendpoint, (), forM_eq_ok_iff.2 hchecks, ?_⟩
    cases hgiven : a.hasTransport with
    | true => rfl
    | false => exact bind_eq_ok_iff.2 ⟨(), mapError_eq_ok_iff.2 (htransport hgiven), rfl⟩

/-! ## Operations that are declared -/

/-- The operations that manifests and calls define, in order, or the first
fault of an entry. -/
def definitions (a : Assembly) : Except DeclarationFault (List Operation) := do
  let own ← a.manifests.mapM Manifest.declared
  return own.flatten ++ a.operations

/-- The ids under which operations are declared, in order. -/
def declaredIds (a : Assembly) : List String :=
  a.manifests.flatMap Manifest.ids ++ a.operations.map Operation.id

theorem ids_flatten (h : ms.mapM Manifest.declared = .ok own) :
    own.flatten.map Operation.id = ms.flatMap Manifest.ids := by
  rw [List.map_flatten, List.flatMap_def]
  exact congrArg List.flatten (map_eq_of_mapM h fun _ _ => Manifest.ids_of_declared)

theorem ids_of_definitions (h : a.definitions = .ok os) :
    os.map Operation.id = a.declaredIds := by
  obtain ⟨own, hown, hos⟩ := bind_eq_ok_iff.1 h
  cases hos
  rw [List.map_append, ids_flatten hown, declaredIds]

theorem exists_of_definitions (h : a.definitions = .ok os) {m : Manifest}
    (hm : m ∈ a.manifests) {e : Manifest.OperationEntry} (he : e ∈ m.operations) :
    ∃ o ∈ os, e.operation m.shared = .ok o := by
  obtain ⟨own, hown, hos⟩ := bind_eq_ok_iff.1 h
  cases hos
  obtain ⟨declared, hdeclared, hm'⟩ := exists_of_mem_mapM hown hm
  obtain ⟨o, ho, heq⟩ := exists_of_mem_mapM hm' he
  exact ⟨o, List.mem_append_left _ (List.mem_flatten_of_mem hdeclared ho), heq⟩

/-! ## Operations that are entered -/

/-- A catalogue of manifests has read them all. -/
theorem exists_mapM_of_withManifests {c' : Catalogue} (h : withManifests c ms = .ok c') :
    ∃ own, ms.mapM Manifest.declared = .ok own := by
  induction ms generalizing c with
  | nil => exact ⟨[], rfl⟩
  | cons m ms ih =>
    rw [withManifests] at h
    obtain ⟨catalogue, hm, h⟩ := bind_eq_ok_iff.1 h
    obtain ⟨os, hos, -⟩ := bind_eq_ok_iff.1 hm
    split at h
    · obtain ⟨own, hown⟩ := ih h
      exact ⟨os :: own, mapM_eq_ok_iff.2 (.cons hos (mapM_eq_ok_iff.1 hown))⟩
    · cases h

/-- **Manifests are entered** when no id occurs twice; otherwise the fault
is that of one that does. -/
theorem withManifests_spec (hc : c.ids.Nodup) (hown : ms.mapM Manifest.declared = .ok own) :
    ((c.ids ++ own.flatten.map Operation.id).Nodup ∧
      withManifests c ms = .ok ⟨c.operations ++ own.flatten⟩) ∨
    ∃ id, withManifests c ms = .error (.duplicateOperation id) ∧
      2 ≤ (c.ids ++ own.flatten.map Operation.id).count id := by
  induction ms generalizing c own with
  | nil =>
    obtain rfl : [] = own := Except.ok.inj hown
    refine .inl ⟨by simpa using hc, ?_⟩
    rw [withManifests, List.flatten_nil, List.append_nil]
  | cons m ms ih =>
    obtain ⟨os, own, hos, hrest, rfl⟩ := List.forall₂_cons_left_iff.1 (mapM_eq_ok_iff.1 hown)
    replace hrest := mapM_eq_ok_iff.2 hrest
    simp only [List.flatten_cons, List.map_append, ← List.append_assoc]
    by_cases hinner : (os.map Operation.id).Nodup
    · have hm : m.catalogue = .ok ⟨os⟩ :=
        bind_eq_ok_iff.2 ⟨os, hos, Catalogue.registerAll_of_nodup hinner⟩
      by_cases houter : (c.ids ++ os.map Operation.id).Nodup
      · have hextend : c.extend ⟨os⟩ = (⟨c.operations ++ os⟩, none) :=
          Catalogue.registerUpTo_of_nodup houter
        have hstep : withManifests c (m :: ms) = withManifests ⟨c.operations ++ os⟩ ms := by
          rw [withManifests, hm]
          simp only [bind, Except.bind, hextend]
        rw [hstep]
        rw [← Catalogue.ids_append] at houter ⊢
        exact ih houter hrest
      · obtain ⟨before, o, after, rfl, htaken, hrefused⟩ :=
          Catalogue.registerUpTo_of_not_nodup hc houter
        have htwice := Catalogue.two_le_count_of_taken after htaken
        refine .inr ⟨o.id, ?_, ?_⟩
        · rw [withManifests, hm]
          simp only [bind, Except.bind, Catalogue.extend, hrefused]
        · rw [List.count_append]
          omega
    · obtain ⟨id, hrefused, htwice⟩ :=
        Catalogue.registerAll_of_not_nodup (c := .empty) List.nodup_nil hinner
      have hm : m.catalogue = .error (.duplicateOperation id) :=
        bind_eq_error_iff.2 (.inr ⟨os, hos, hrefused⟩)
      refine .inr ⟨id, ?_, ?_⟩
      · rw [withManifests, hm]
        rfl
      · change 2 ≤ (os.map Operation.id).count id at htwice
        simp only [List.count_append]
        omega

/-- **Declared operations are entered** when no id occurs twice; otherwise
the fault is that of one that does. -/
theorem catalogue_spec (h : a.definitions = .ok os) :
    (a.declaredIds.Nodup ∧ a.catalogue = .ok ⟨os⟩) ∨
      ∃ id, a.catalogue = .error (.duplicateOperation id) ∧ 2 ≤ a.declaredIds.count id := by
  rw [← ids_of_definitions h]
  obtain ⟨own, hown, hos⟩ := bind_eq_ok_iff.1 h
  cases hos
  rw [List.map_append, catalogue]
  rcases withManifests_spec (c := .empty) List.nodup_nil hown with
    ⟨hnodup, hentered⟩ | ⟨id, hrefused, htwice⟩
  · rw [hentered]
    change (own.flatten.map Operation.id).Nodup at hnodup
    by_cases hall : (own.flatten.map Operation.id ++ a.operations.map Operation.id).Nodup
    · exact .inl ⟨hall, Catalogue.registerAll_of_nodup (c := ⟨own.flatten⟩) hall⟩
    · exact .inr (Catalogue.registerAll_of_not_nodup (c := ⟨own.flatten⟩) hnodup hall)
  · rw [hrefused]
    change 2 ≤ (own.flatten.map Operation.id).count id at htwice
    refine .inr ⟨id, rfl, ?_⟩
    rw [List.count_append]
    omega

/-- **A catalogue that is entered** holds what is declared, under distinct
ids. -/
theorem definitions_of_catalogue (h : a.catalogue = .ok c) :
    a.definitions = .ok c.operations ∧ a.declaredIds.Nodup := by
  obtain ⟨c', hmanifests, -⟩ := bind_eq_ok_iff.1 h
  obtain ⟨own, hown⟩ := exists_mapM_of_withManifests hmanifests
  have hdefinitions : a.definitions = .ok (own.flatten ++ a.operations) :=
    bind_eq_ok_iff.2 ⟨own, hown, rfl⟩
  rcases catalogue_spec hdefinitions with ⟨hnodup, hentered⟩ | ⟨id, hrefused, -⟩
  · rw [hentered] at h
    cases h
    exact ⟨hdefinitions, hnodup⟩
  · rw [hrefused] at h
    cases h

theorem ids_of_catalogue (h : a.catalogue = .ok c) : c.ids = a.declaredIds :=
  ids_of_definitions (definitions_of_catalogue h).1

/-- **No operation is shadowed.** A client that is built has an operation
under each id that is declared and under no other: under the id of a
manifest's entry the operation of that entry, and under that of an
operation given beside the manifests this operation; and no id is declared
twice. When one is, no client is built; if nothing else is wrong with the
entries, the fault is that of an id that occurs twice. -/
theorem no_shadowing (a : Assembly) (env : Environment) :
    (∀ client, a.build env = .ok client →
      a.declaredIds.Nodup ∧
      (∀ id, (∃ o, client.catalogue.describe id = .ok o) ↔ id ∈ a.declaredIds) ∧
      (∀ m ∈ a.manifests, ∀ e ∈ m.operations,
        ∃ o, e.operation m.shared = .ok o ∧ client.catalogue.describe e.id = .ok o) ∧
      ∀ o ∈ a.operations, client.catalogue.describe o.id = .ok o) ∧
    (¬ a.declaredIds.Nodup →
      (∃ fault, a.build env = .error fault) ∧
      ∀ os, a.definitions = .ok os → ∃ id, 2 ≤ a.declaredIds.count id ∧
        a.build env = .error (.declaration (.duplicateOperation id))) := by
  constructor
  · intro client h
    have hcatalogue := (build_eq_ok_iff.1 h).catalogue
    have hids := ids_of_catalogue hcatalogue
    obtain ⟨hdefinitions, hnodup⟩ := definitions_of_catalogue hcatalogue
    refine ⟨hnodup, fun id => by rw [Catalogue.describe_succeeds_iff, hids],
      fun m hm e he => ?_, fun o ho => ?_⟩
    · obtain ⟨o, ho, heq⟩ := exists_of_definitions hdefinitions hm he
      refine ⟨o, heq, ?_⟩
      rw [← Manifest.OperationEntry.id_of_operation heq]
      exact Catalogue.describe_of_mem (hids ▸ hnodup) ho
    · obtain ⟨own, -, hos⟩ := bind_eq_ok_iff.1 hdefinitions
      refine Catalogue.describe_of_mem (hids ▸ hnodup) ?_
      rw [← Except.ok.inj hos]
      exact List.mem_append_right _ ho
  · intro hdup
    constructor
    · cases hbuild : a.build env with
      | error fault => exact ⟨fault, rfl⟩
      | ok client =>
        exact absurd (definitions_of_catalogue (build_eq_ok_iff.1 hbuild).catalogue).2 hdup
    · intro os hos
      rcases catalogue_spec hos with ⟨hnodup, -⟩ | ⟨id, hrefused, htwice⟩
      · exact absurd hnodup hdup
      · refine ⟨id, htwice, ?_⟩
        rw [build, hrefused]
        rfl

/-- An operation of a manifest, whose endpoint is an argument. -/
def zonesEntry : Manifest.OperationEntry :=
  { id := "zones.list", method := "get", path := "/zones", pathArguments := [], query := []
    headers := [], accept := none, payload := none, endpointArgument := some 0, parser := none
    mapper := none, filters := [], unwrapping := none, literal := none, takesOptions := false }

/-- A manifest of this operation. -/
def zones : Manifest :=
  { id := "dns", name := none, endpoint := none, shared := ⟨["basic_auth"], [], [], none, none⟩
    operations := [zonesEntry] }

/-- Once the operation is found under its id; a second manifest that
declares it as well is refused. -/
theorem no_shadowing_zones :
    (∃ client o, { start with manifests := [zones] }.build [] = .ok client ∧
      zonesEntry.operation zones.shared = .ok o ∧
      client.catalogue.describe "zones.list" = .ok o) ∧
    { start with manifests := [zones, zones] }.build [] =
      .error (.declaration (.duplicateOperation "zones.list")) := by
  constructor
  · have hbuilt : ∃ client, { start with manifests := [zones] }.build [] = .ok client := ⟨_, rfl⟩
    obtain ⟨client, hbuilt⟩ := hbuilt
    obtain ⟨-, -, hentries, -⟩ := (no_shadowing { start with manifests := [zones] } []).1 _ hbuilt
    obtain ⟨o, ho, hdescribe⟩ := hentries zones List.mem_cons_self zonesEntry List.mem_cons_self
    exact ⟨client, o, hbuilt, ho, hdescribe⟩
  · have hread : ∃ os, { start with manifests := [zones, zones] }.definitions = .ok os := ⟨_, rfl⟩
    obtain ⟨os, hos⟩ := hread
    obtain ⟨-, hfault⟩ := (no_shadowing { start with manifests := [zones, zones] } []).2 (by decide)
    obtain ⟨id, htwice, hrefused⟩ := hfault os hos
    have hid : id ∈ ["zones.list", "zones.list"] :=
      List.one_le_count_iff.1 (Nat.le_of_succ_le htwice)
    obtain rfl : id = "zones.list" := by simpa using hid
    exact hrefused

end Assembly

end RestCall
