import TenantQuery.Proofs.Compilation.OutputName
/-!
What is known of the columns that survive: their fields were authorized in canonical form, and
their output names were settled one after the other.
-/

namespace TenantQuery.Compilation

open Identifier

/-- The caller may name the column, in whatever case it is written. -/
def admits (access : Access) (table field : String) : Bool :=
  isIdentifier field && access.fieldAllowed table (canonical field)

theorem isIdentifier_of_admits {access : Access} {table field : String}
    (h : admits access table field) : isIdentifier field := by
  rw [admits, Bool.and_eq_true] at h
  exact h.1

theorem authorize_eq_ok_iff {access : Access} {table field name : String} {role : FieldRole} :
    authorize access table role field = .ok name ↔
      admits access table field ∧ name = canonical field := by
  unfold authorize admits
  cases isIdentifier field with
  | false => simp
  | true =>
      by_cases hallowed : access.fieldAllowed table (canonical field)
      · simp only [Bool.not_true, Bool.false_eq_true, ↓reduceIte, hallowed, Except.ok.injEq,
          Bool.and_self, true_and]
        exact eq_comm
      · simp [hallowed]

theorem authorize_of_admits {access : Access} {table field : String} (role : FieldRole)
    (h : admits access table field) :
    authorize access table role field = .ok (canonical field) :=
  authorize_eq_ok_iff.mpr ⟨h, rfl⟩

theorem exists_authorize_error {access : Access} {table field : String} (role : FieldRole)
    (h : admits access table field = false) :
    ∃ adjustment, authorize access table role field = .error adjustment := by
  cases hresult : authorize access table role field with
  | error adjustment => exact ⟨adjustment, rfl⟩
  | ok name => simp [(authorize_eq_ok_iff.mp hresult).1] at h

/-- A request whose default name can be cut and numbered. -/
def ColumnRequest.Regular (request : ColumnRequest) : Prop :=
  isIdentifier request.field → IsBaseName request.defaultName

theorem regular_of_mem_columnRequests {intent : Intent} {request : ColumnRequest}
    (hmem : request ∈ columnRequests intent) : request.Regular := by
  rcases List.mem_append.mp hmem with hmem | hmem
  · obtain ⟨dimension, -, rfl⟩ := List.mem_map.mp hmem
    exact isBaseName_canonical
  · obtain ⟨metric, -, rfl⟩ := List.mem_map.mp hmem
    exact isBaseName_aggregate metric.aggregate

theorem selectColumns_cons_of_admits {access : Access} {table : String} {request : ColumnRequest}
    (taken : List String) (rest : List ColumnRequest) (h : admits access table request.field) :
    selectColumns access table taken (request :: rest) =
      let settled := resolveName taken (canonical request.field) request.requestedName
        request.defaultName
      let later := selectColumns access table (settled.1 :: taken) rest
      ({ field := canonical request.field, shape := request.shape, outputName := settled.1 } ::
        later.1, settled.2 ++ later.2) := by
  rw [selectColumns, authorize_of_admits request.role h]

theorem selectColumns_cons_of_not_admits {access : Access} {table : String}
    {request : ColumnRequest} (taken : List String) (rest : List ColumnRequest)
    (h : admits access table request.field = false) :
    ∃ adjustment, authorize access table request.role request.field = .error adjustment ∧
      selectColumns access table taken (request :: rest) =
        ((selectColumns access table taken rest).1,
          adjustment :: (selectColumns access table taken rest).2) := by
  obtain ⟨adjustment, hresult⟩ := exists_authorize_error request.role h
  exact ⟨adjustment, hresult, by rw [selectColumns, hresult]⟩

/-- Every selected column was requested and authorized, and its output name was settled among
fewer names than there are requests. -/
theorem exists_request {access : Access} {table : String} {requests : List ColumnRequest}
    {taken : List String} {column : Sql.Column}
    (hmem : column ∈ (selectColumns access table taken requests).1) :
    ∃ request ∈ requests, admits access table request.field ∧
      ∃ earlier : List String, earlier.length < taken.length + requests.length ∧
        column = ⟨canonical request.field, request.shape,
          (resolveName earlier (canonical request.field) request.requestedName
            request.defaultName).1⟩ := by
  induction requests generalizing taken with
  | nil => cases hmem
  | cons request rest ih =>
      have hlater : ∀ more : List String, more.length ≤ taken.length + 1 →
          column ∈ (selectColumns access table more rest).1 →
          ∃ other ∈ request :: rest, admits access table other.field ∧
            ∃ earlier : List String, earlier.length < taken.length + (request :: rest).length ∧
              column = ⟨canonical other.field, other.shape,
                (resolveName earlier (canonical other.field) other.requestedName
                  other.defaultName).1⟩ := by
        intro more hmore hcolumn
        obtain ⟨other, hother, hadmits, earlier, hearlier, rfl⟩ := ih hcolumn
        refine ⟨other, List.mem_cons_of_mem request hother, hadmits, earlier, ?_, rfl⟩
        rw [List.length_cons]
        omega
      cases hadmits : admits access table request.field with
      | false =>
          obtain ⟨_, -, hstep⟩ := selectColumns_cons_of_not_admits taken rest hadmits
          rw [hstep] at hmem
          exact hlater taken (by omega) hmem
      | true =>
          rw [selectColumns_cons_of_admits taken rest hadmits] at hmem
          rcases List.mem_cons.mp hmem with rfl | hmem
          · exact ⟨request, List.mem_cons_self, hadmits, taken, by simp, rfl⟩
          · exact hlater _ (by simp) hmem

/-- The output names of an intent are names. -/
theorem isName_outputName {access : Access} {table : String} {intent : Intent}
    {column : Sql.Column}
    (hmem : column ∈ (selectColumns access table [] (columnRequests intent)).1) :
    IsName column.outputName.toList := by
  obtain ⟨request, hrequest, hadmits, earlier, -, rfl⟩ := exists_request hmem
  have hregular := regular_of_mem_columnRequests hrequest (isIdentifier_of_admits hadmits)
  exact isName_resolveName hregular earlier _ _

theorem outputName_not_mem_taken {access : Access} {table : String}
    (requests : List ColumnRequest) (taken : List String) :
    ∀ column ∈ (selectColumns access table taken requests).1, column.outputName ∉ taken := by
  induction requests generalizing taken with
  | nil => simp [selectColumns]
  | cons request rest ih =>
      cases hadmits : admits access table request.field with
      | false =>
          obtain ⟨_, -, hstep⟩ := selectColumns_cons_of_not_admits taken rest hadmits
          rw [hstep]
          exact ih taken
      | true =>
          rw [selectColumns_cons_of_admits taken rest hadmits]
          intro column hmem
          rcases List.mem_cons.mp hmem with rfl | hmem
          · exact resolveName_not_mem taken _ _ _
          · exact fun htaken => ih _ column hmem (List.mem_cons_of_mem _ htaken)

/-- Every column is told apart by its output name. -/
theorem nodup_outputNames {access : Access} {table : String} (requests : List ColumnRequest)
    (taken : List String) :
    ((selectColumns access table taken requests).1.map Sql.Column.outputName).Nodup := by
  induction requests generalizing taken with
  | nil => simp [selectColumns]
  | cons request rest ih =>
      cases hadmits : admits access table request.field with
      | false =>
          obtain ⟨_, -, hstep⟩ := selectColumns_cons_of_not_admits taken rest hadmits
          rw [hstep]
          exact ih taken
      | true =>
          rw [selectColumns_cons_of_admits taken rest hadmits, List.map_cons, List.nodup_cons]
          constructor
          · intro hmem
            obtain ⟨column, hcolumn, heq⟩ := List.mem_map.mp hmem
            have hnew := outputName_not_mem_taken rest _ column hcolumn
            exact hnew (heq ▸ List.mem_cons_self)
          · exact ih _

/-- The selected columns are the authorized ones, in the order of the requests. -/
theorem map_selectColumns (access : Access) (table : String) (taken : List String)
    (requests : List ColumnRequest) :
    (selectColumns access table taken requests).1.map (fun column => (column.field, column.shape)) =
      (requests.filter (admits access table ·.field)).map fun request =>
        (canonical request.field, request.shape) := by
  induction requests generalizing taken with
  | nil => rfl
  | cons request rest ih =>
      cases hadmits : admits access table request.field with
      | false =>
          obtain ⟨_, -, hstep⟩ := selectColumns_cons_of_not_admits taken rest hadmits
          rw [hstep]
          simpa [List.filter_cons, hadmits] using ih taken
      | true =>
          rw [selectColumns_cons_of_admits taken rest hadmits]
          simp [hadmits, ih]

end TenantQuery.Compilation
