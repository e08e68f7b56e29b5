import Kapsl.Lib.Trim
import Kapsl.Vllm.Planning

/-!
# Vllm/CacheGroups — the certified topology of a resolved vLLM cache configuration

vLLM hands over Python objects; the model keeps, of each, the attributes the connector reads.  A
missing attribute reads as `None` unless the source names another default.  `PyValue` is a value an
attribute may hold, with Python's own equality: numbers compare by value across types, and an object
the connector knows nothing of is its equality class.

`extract_cache_group_topologies` is the one reading that planning and registration share.  What it
guarantees of the group at an index is `CacheGroupTopology.Certified`.
-/

namespace Kapsl.Vllm

open Except (raiseIf)

/-! ## Python values -/

inductive PyValue
  | none
  | bool (b : Bool)
  | int (n : ℤ)
  | float (x : JsonFloat)
  | fraction (q : ℚ)
  /-- Any other object, with what `int(value or 0)` makes of it. -/
  | object (id : ℕ) (asInt : Option ℤ)
  deriving DecidableEq

namespace PyValue

/-- The number that `==` compares. -/
def number? : PyValue → Option JsonFloat
  | bool b => some (.finite (if b then 1 else 0))
  | int n => some (.finite n)
  | float x => some x
  | fraction q => some (.finite q)
  | none | object _ _ => Option.none

/-- `left == right`. -/
def pyEq (left right : PyValue) : Bool :=
  match left.number?, right.number? with
  | some x, some y => x != .nan && x == y
  | _, _ => left == right

/-- `int(value or 0)`. -/
def toInt : PyValue → Except PyError ℤ
  | none => .ok 0
  | bool b => .ok (if b then 1 else 0)
  | int n => .ok n
  | float .nan => .error (.valueError "cannot convert float NaN to integer")
  | float (.infinity _) => .error (.valueError "cannot convert float infinity to integer")
  | float (.finite q) => .ok (q.num.tdiv q.den)
  | fraction q => .ok (q.num.tdiv q.den)
  | object _ (some n) => .ok n
  | object _ Option.none => .error (.typeError "int() argument must be a real number")

end PyValue

/-- `_uint` of a value that need not be an integer. -/
def uintValue (value : PyValue) (field : String) (allowZero : Bool := false) : Except PyError ℕ :=
  match value with
  | .int n => do
    raiseIf (n < (if allowZero then 0 else 1) ∨ n > uint64Max)
      (.planningError (field ++ " must be a " ++ (if allowZero then "non-negative" else "positive")
        ++ " unsigned 64-bit integer"))
    pure n.toNat
  | _ => .error (.planningError (field ++ " must be an integer"))

/-- `_positive_attr`: the first of the attributes that is set. -/
def positiveAttr : List PyValue → String → Except PyError ℕ
  | [], field => .error (.planningError ("resolved vLLM spec does not expose " ++ field))
  | .none :: values, field => positiveAttr values field
  | value :: _, field => uintValue value field

/-- `_uniform`, for the equality of the values. -/
def uniform {α : Type} (eq : α → α → Bool) (values : List α) (field : String) : Except PyError α :=
  let mixed : PyError := .planningError <|
    "the certified topology cannot represent mixed " ++ field ++ " inside one cache group"
  match values with
  | [] => .error mixed
  | first :: rest => if rest.all (eq · first) then .ok first else .error mixed

/-- `str.lower`, on the letters that the certified names are spelled with. -/
def lower (text : String) : String := .ofList (text.toList.map Char.toLower)

/-- `str.upper`, on the same letters. -/
def upper (text : String) : String := .ofList (text.toList.map Char.toUpper)

/-- `str.removeprefix`. -/
def removePrefix (start text : String) : String :=
  if start.toList.isPrefixOf text.toList then .ofList (text.toList.drop start.length) else text

/-- `text.rsplit(".", 1)[-1]`. -/
def afterLastDot (text : String) : String :=
  .ofList (text.toList.reverse.takeWhile (· ≠ '.')).reverse

/-! ## Resolved configurations -/

/-- `kv_quant_mode`: absent, an enumeration member, or an object known by its text. -/
inductive QuantMode
  | absent
  | named (name : String)
  | printed (text : String)

/-- The attributes of a resolved cache spec that the connector reads. -/
structure SpecAttributes where
  blockSize : PyValue
  pageSizeBytes : PyValue
  numKvHeads : PyValue
  numHeads : PyValue := .none
  headSize : PyValue
  headSizeV : PyValue := .none
  /-- `str(dtype)`. -/
  dtype : String
  kvQuantMode : QuantMode := .absent
  pageSizePadded : PyValue := .none
  numHeadSlots : PyValue := .none
  stateContentBytes : PyValue := .none
  tokensPerState : Option PyValue := none
  attentionChunkSize : PyValue := .none
  slidingWindow : PyValue := .none
  extraRetainedTokens : Option PyValue := none
  /-- What `max_memory_usage_bytes(vllm_config)` returns or raises, if it can be called. -/
  maxMemoryUsageBytes : Option (Except PyError PyValue) := none

/-- A key of `kv_cache_specs`: a string, or another object known by its text. -/
inductive MemberKey
  | name (text : String)
  | other (text : String)
  deriving DecidableEq

/-- `str(key)`. -/
def MemberKey.text : MemberKey → String
  | name t | other t => t

mutual

/-- A resolved cache spec; a uniform one wraps a spec for each layer. -/
inductive CacheSpec
  | plain (attributes : SpecAttributes)
  | uniform (attributes : SpecAttributes) (members : SpecMembers)

/-- `kv_cache_specs`, in insertion order. -/
inductive SpecMembers
  | nil
  | cons (key : MemberKey) (spec : CacheSpec) (rest : SpecMembers)

end

def CacheSpec.attributes : CacheSpec → SpecAttributes
  | plain attributes | uniform attributes _ => attributes

def SpecMembers.toList : SpecMembers → List (MemberKey × CacheSpec)
  | nil => []
  | cons key spec rest => (key, spec) :: rest.toList

/-- A cache group as vLLM resolved it; `layerNames` holds the texts of its items, if it is a
sequence. -/
structure RawGroup where
  layerNames : Option (List String)
  kvCacheSpec : Option CacheSpec

/-- `KVCacheConfig`; `kvCacheTensors` holds the size of each tensor. -/
structure ResolvedConfig where
  kvCacheGroups : Option (List RawGroup)
  numBlocks : PyValue
  kvCacheTensors : List PyValue
  kvCacheLayout : Option String

/-- `CacheGroupTopology`. -/
structure CacheGroupTopology where
  groupId : String
  layers : List String
  blockSizeTokens : ℕ
  pageSizeBytes : ℕ
  bytesPerGroupBlock : ℕ
  kvHeads : ℕ
  keyHeadDim : ℕ
  valueHeadDim : ℕ
  elementType : ElementType
  policyKind : CachePolicy
  windowTokens : Option ℕ := none
  extraRetainedTokens : ℕ := 0
  deriving DecidableEq

/-! ## The kind of a spec -/

/-- What the spec classifier answers: the text of its marker, or an exception. -/
abbrev CacheSpecClassifier := CacheSpec → Except PyError String

/-- The policy a certified kind names. -/
def CachePolicy.ofKind : String → Option CachePolicy
  | "full_attention" => some .fullAttention
  | "sliding_window" => some .slidingWindow
  | _ => none

/-- The classifier half of `resolve_vllm_cache_spec_kind`. -/
def classify (I : Interpreter) (classifier : CacheSpecClassifier) (spec : CacheSpec) :
    Except PyError CachePolicy :=
  match classifier spec with
  | .error (.planningError message) => .error (.planningError message)
  | .error _ => .error (.planningError "pinned vLLM could not classify the resolved cache spec")
  | .ok marker =>
    let kind := lower (strip marker)
    match CachePolicy.ofKind kind with
    | some policy => .ok policy
    | none => .error (.planningError <| "cache spec kind " ++
        I.repr (if kind = "" then "<missing>" else kind) ++
        " is not certified by the packed profile")

mutual

/-- `resolve_vllm_cache_spec_kind`. -/
def resolveVllmCacheSpecKind (I : Interpreter) (classifier : CacheSpecClassifier) :
    CacheSpec → Except PyError CachePolicy
  | .plain attributes => classify I classifier (.plain attributes)
  | .uniform attributes members => do
    let kind ← classify I classifier (.uniform attributes members)
    raiseIf (members.toList.isEmpty)
      (.planningError "uniform vLLM cache spec has no member specs")
    let memberKinds ← resolveMemberKinds I classifier members
    raiseIf (memberKinds.any (· ≠ kind))
      (.planningError "uniform vLLM cache spec kind differs from its member specs")
    pure kind

/-- The kinds of the members, in order. -/
def resolveMemberKinds (I : Interpreter) (classifier : CacheSpecClassifier) :
    SpecMembers → Except PyError (List CachePolicy)
  | .nil => .ok []
  | .cons _ spec rest => do
    let kind ← resolveVllmCacheSpecKind I classifier spec
    let kinds ← resolveMemberKinds I classifier rest
    pure (kind :: kinds)

end

/-! ## The dense layout of a group -/

/-- `_DTYPE_BITS`. -/
def dtypeBits : String → Option ℕ
  | "float16" | "half" | "bfloat16" => some 16
  | "float32" | "float" => some 32
  | "int8" | "uint8" | "float8_e4m3fn" | "float8_e4m3fnuz" | "float8_e5m2"
  | "float8_e5m2fnuz" => some 8
  | _ => none

/-- `_element_type` of the planner. -/
def plannedElementType (I : Interpreter) (dtype : String) : Except PyError ElementType :=
  let name := removePrefix "torch." (lower (strip dtype))
  match dtypeBits name with
  | none => .error (.planningError <| "cache dtype " ++
      I.repr (if name = "" then "<missing>" else name) ++
      " is not certified by the packed CUDA-IPC planner")
  | some bits => ElementType.postInit { name, bits }

/-- `_quant_mode`. -/
def quantMode : QuantMode → String
  | .absent => "NONE"
  | .named name => upper (strip name)
  | .printed text => upper (strip (afterLastDot text))

/-- The ratio of one member in `_validate_dense_attention_layout`. -/
def tokenRatio (member : SpecAttributes) : Except PyError ℚ :=
  match member.tokensPerState.getD (.int 1) with
  | .int n => .ok n
  | .fraction q => .ok q
  | _ => .error (.planningError "tokens_per_state is not an exact rational value")

/-- A packed size that must agree with the dense one where it is set. -/
def checkPacked (values : List PyValue) (mixed field : String) (dense : ℕ) (message : String) :
    Except PyError Unit := do
  let value ← uniform PyValue.pyEq values mixed
  if value = .none then pure ()
  else do
    let packed ← uintValue value field
    raiseIf (packed ≠ dense) (.planningError message)

/-- The page check of `_validate_dense_attention_layout`. -/
def checkPages (members : List SpecAttributes) (densePageBytes : ℕ) : Except PyError Unit :=
  members.forM fun member => do
    let pageSize ← positiveAttr [member.pageSizeBytes] "page_size_bytes"
    raiseIf (pageSize ≠ densePageBytes) (.planningError
      "resolved KV page bytes do not match the certified dense attention geometry")

/-- `_validate_dense_attention_layout`. -/
def validateDenseAttentionLayout (members : List SpecAttributes) (elementType : ElementType)
    (blockSize kvHeads keyHeadDim valueHeadDim : ℕ) : Except PyError Unit := do
  let quantization ← uniform (· == ·) (members.map fun member => quantMode member.kvQuantMode)
    "KV quantization modes"
  raiseIf (quantization ≠ "NONE")
    (.planningError "quantized KV layouts require a new certified planner profile")
  raiseIf (members.any fun member => member.pageSizePadded ≠ .none)
    (.planningError "padded KV pages require a new certified planner profile")
  checkPacked (members.map (·.numHeadSlots)) "packed head-slot counts" "num_head_slots" kvHeads
    "packed KV head slots require a new certified planner profile"
  -- The packed state sizes are read before the dense one is computed.
  let _ ← uniform PyValue.pyEq (members.map (·.stateContentBytes)) "packed state sizes"
  let dimensions ← checkedAdd keyHeadDim valueHeadDim "dense state dimensions"
  let denseStateBytes ← checkedMul dimensions (elementType.bits / 8) "dense state bytes"
  checkPacked (members.map (·.stateContentBytes)) "packed state sizes" "state_content_bytes"
    denseStateBytes "packed KV state content requires a new certified planner profile"
  let elements ← checkedMul blockSize kvHeads "dense KV page elements"
  let densePageBytes ← checkedMul elements denseStateBytes "dense KV page bytes"
  checkPages members densePageBytes
  let ratios ← members.mapM tokenRatio
  let ratio ← uniform (· == ·) ratios "tokens-per-state ratios"
  raiseIf (ratio ≠ 1)
    (.planningError "compressed KV states require a new certified planner profile")

/-! ## The topology of a group -/

/-- `members[name]`. -/
def SpecMembers.get (members : SpecMembers) (name : String) : Except PyError CacheSpec :=
  match members.toList.lookup (.name name) with
  | some spec => .ok spec
  | none => .error (.keyError name)

/-- `_member_specs`. -/
def memberSpecs (spec : CacheSpec) (layerNames : List String) :
    Except PyError (List SpecAttributes) :=
  match spec with
  | .plain attributes => .ok [attributes]
  | .uniform _ members => do
    let texts := members.toList.map fun member => member.1.text
    raiseIf (¬((∀ t ∈ texts, t ∈ layerNames) ∧ ∀ name ∈ layerNames, name ∈ texts))
      (.planningError
        "uniform vLLM cache spec layer membership differs from its cache group")
    layerNames.mapM fun name => do
      let member ← members.get name
      pure member.attributes

/-- The sliding-window half of `_extract_group_topology`. -/
def extractWindow (members : List SpecAttributes) : Except PyError ℕ := do
  let window ← uniform PyValue.pyEq (members.map (·.slidingWindow)) "sliding-window policies"
  raiseIf (window = .none) (.planningError "resolved sliding-window spec has no window size")
  let windowTokens ← uintValue window "window_tokens"
  let retained ← uniform PyValue.pyEq
    (members.map fun member => member.extraRetainedTokens.getD (.int 0))
    "extra retained token counts"
  let extraRetainedTokens ← uintValue retained "extra_retained_tokens" true
  raiseIf (extraRetainedTokens ≠ 0) (.planningError
    "the certified KV ABI cannot represent nonzero extra retained tokens")
  pure windowTokens

/-- `window_tokens`: only a sliding window has one. -/
def extractPolicyWindow (members : List SpecAttributes) :
    CachePolicy → Except PyError (Option ℕ)
  | .slidingWindow => do
    let window ← extractWindow members
    pure (some window)
  | .fullAttention => .ok none

/-- `bytes_per_group_block`: a uniform spec already sums its members. -/
def groupBytes (spec : CacheSpec) (members : List SpecAttributes) (pageSize layers : ℕ) :
    Except PyError ℕ :=
  match spec with
  | .plain _ => checkedMul pageSize layers "bytes_per_group_block"
  | .uniform _ _ => do
    let pages ← members.mapM fun member => positiveAttr [member.pageSizeBytes] "page_size_bytes"
    let _ ← uniform (· == ·) pages "member page sizes"
    let total ← pages.foldlM (fun total page => checkedAdd total page "bytes_per_group_block") 0
    raiseIf (total ≠ pageSize) (.planningError
      "uniform vLLM cache spec page accounting is internally inconsistent")
    pure pageSize

/-- A positive attribute on which all members agree. -/
def uniformAttr (members : List SpecAttributes) (attributes : SpecAttributes → List PyValue)
    (field mixed : String) : Except PyError ℕ := do
  let values ← members.mapM fun member => positiveAttr (attributes member) field
  uniform (· == ·) values mixed

/-- The ID of the group at an index. -/
def vllmGroupId (index : ℕ) : String := s!"vllm.group.{index}"

/-- `_extract_group_topology` once the group has layers and a spec. -/
def extractSpecTopology (I : Interpreter) (classifier : CacheSpecClassifier) (groupIndex : ℕ)
    (layers : List String) (spec : CacheSpec) : Except PyError CacheGroupTopology := do
  let blockSizeTokens ← positiveAttr [spec.attributes.blockSize] "block_size_tokens"
  let pageSizeBytes ← positiveAttr [spec.attributes.pageSizeBytes] "page_size_bytes"
  let members ← memberSpecs spec layers
  let policyKind ← resolveVllmCacheSpecKind I classifier spec
  let memberBlockSize ← uniformAttr members (fun m => [m.blockSize]) "block_size_tokens"
    "block sizes"
  raiseIf (memberBlockSize ≠ blockSizeTokens) (.planningError
    "uniform vLLM cache spec block size differs from its member specs")
  let kvHeads ← uniformAttr members (fun m => [m.numKvHeads, m.numHeads]) "kv_heads"
    "KV-head counts"
  let keyHeadDim ← uniformAttr members (fun m => [m.headSize]) "key_head_dim"
    "key head dimensions"
  let valueHeadDim ← uniformAttr members (fun m => [m.headSizeV, m.headSize]) "value_head_dim"
    "value head dimensions"
  let elementTypes ← members.mapM fun member => plannedElementType I member.dtype
  let elementType ← uniform (· == ·) elementTypes "cache element types"
  validateDenseAttentionLayout members elementType blockSizeTokens kvHeads keyHeadDim valueHeadDim
  raiseIf (members.any fun member => member.attentionChunkSize ≠ .none) (.planningError
    "the certified packed CUDA-IPC profile does not support chunked-local attention")
  let windowTokens ← extractPolicyWindow members policyKind
  let bytesPerGroupBlock ← groupBytes spec members pageSizeBytes layers.length
  pure
    { groupId := vllmGroupId groupIndex
      layers
      blockSizeTokens
      pageSizeBytes
      bytesPerGroupBlock
      kvHeads
      keyHeadDim
      valueHeadDim
      elementType
      policyKind
      windowTokens }

/-- `_extract_group_topology`. -/
def extractGroupTopology (I : Interpreter) (classifier : CacheSpecClassifier)
    (rawGroup : RawGroup) (groupIndex : ℕ) : Except PyError CacheGroupTopology :=
  match rawGroup.layerNames with
  | none => .error (.planningError s!"vLLM cache group {groupIndex} has no layer list")
  | some rawLayers => do
    let layers ← rawLayers.mapM fun layer => text layer "layer name"
    raiseIf (layers = []) (.planningError s!"vLLM cache group {groupIndex} has no layers")
    match rawGroup.kvCacheSpec with
    | none => .error (.planningError s!"vLLM cache group {groupIndex} has no cache spec")
    | some spec => extractSpecTopology I classifier groupIndex layers spec

/-- `extract_cache_group_topologies`. -/
def extractCacheGroupTopologies (I : Interpreter) (classifier : CacheSpecClassifier)
    (config : ResolvedConfig) : Except PyError (List CacheGroupTopology) := do
  let rawGroups := config.kvCacheGroups.getD []
  raiseIf (rawGroups = [])
    (.planningError "resolved vLLM KVCacheConfig has no cache groups")
  let groups ← rawGroups.zipIdx.mapM fun (group, index) =>
    extractGroupTopology I classifier group index
  raiseIf (¬(groups.flatMap (·.layers)).Nodup) (.planningError
    "cache-group layer names must be globally unique within a rank")
  pure groups

/-! ## Stripped texts -/

theorem toList_strip (text : String) : (strip text).toList = text.toList.trim isPySpace :=
  String.toList_ofList

theorem strip_strip (text : String) : strip (strip text) = strip text := by
  refine String.toList_injective ?_
  rw [toList_strip, toList_strip, List.trim_trim]

theorem isBlank_strip (text : String) : isBlank (strip text) = isBlank text := by
  rw [isBlank, toList_strip, List.all_trim, isBlank]

/-- A text that is stripped and not blank, as `_text` returns it. -/
def IsText (value : String) : Prop := strip value = value ∧ isBlank value = false

theorem text_eq_ok {value stripped field : String} :
    text value field = .ok stripped ↔ isBlank value = false ∧ strip value = stripped := by
  rw [text, Except.bind_eq_ok]
  simp [Except.pure_eq_ok, PyText.isBlank, PyText.strip]

theorem isText_of_text {value stripped field : String} (h : text value field = .ok stripped) :
    IsText stripped := by
  obtain ⟨hblank, rfl⟩ := text_eq_ok.mp h
  exact ⟨strip_strip value, (isBlank_strip value).trans hblank⟩

theorem IsText.text_eq {value : String} (h : IsText value) (field : String) :
    text value field = .ok value := text_eq_ok.mpr ⟨h.2, h.1⟩

/-- The characters of a group's ID. -/
theorem toList_vllmGroupId (index : ℕ) :
    (vllmGroupId index).toList = "vllm.group.".toList ++ Nat.toDigits 10 index := by
  rw [vllmGroupId, String.toList_append]
  exact congrArg ("vllm.group.".toList ++ ·) Nat.toList_repr

theorem isPySpace_of_isDigit {c : Char} (h : c.isDigit = true) : isPySpace c = false := by
  simp only [Char.isDigit, Bool.and_eq_true, decide_eq_true_eq, ge_iff_le, UInt32.le_iff_toNat_le]
    at h
  have hlow : 48 ≤ c.toNat := h.1
  have hhigh : c.toNat ≤ 57 := h.2
  simp only [isPySpace, Bool.or_eq_false_iff, Bool.and_eq_false_iff, decide_eq_false_iff_not]
  omega

/-- **The ID of a group is already stripped**: it starts with a letter and ends with a digit. -/
theorem isText_vllmGroupId (index : ℕ) : IsText (vllmGroupId index) := by
  have hdigits : Nat.toDigits 10 index ≠ [] := Nat.toDigits_ne_nil
  have hlist := toList_vllmGroupId index
  have hne : (vllmGroupId index).toList ≠ [] := by
    rw [hlist]
    exact List.append_ne_nil_of_right_ne_nil _ hdigits
  have hlast : isPySpace ((vllmGroupId index).toList.getLast hne) = false := by
    simp only [hlist, List.getLast_append_of_ne_nil _ hdigits]
    exact isPySpace_of_isDigit
      (Nat.isDigit_of_mem_toDigits (by omega) (by omega) (List.getLast_mem hdigits))
  have hhead : isPySpace ((vllmGroupId index).toList.head hne) = false := by
    simp only [hlist]
    rfl
  constructor
  · refine String.toList_injective ?_
    rw [toList_strip, List.trim_eq_self hne hhead hlast]
  · exact List.all_eq_false.mpr ⟨_, List.head_mem hne, by rw [hhead]; exact Bool.false_ne_true⟩

theorem vllmGroupId_injective : Function.Injective vllmGroupId := by
  intro i j h
  have hdigits : Nat.toDigits 10 i = Nat.toDigits 10 j := by
    have hlist := congrArg String.toList h
    rw [toList_vllmGroupId, toList_vllmGroupId] at hlist
    exact List.append_cancel_left hlist
  rw [← Nat.ofDigitChars_ten_toDigits (n := i), hdigits, Nat.ofDigitChars_ten_toDigits]

/-! ## What extraction certifies -/

theorem uniform_eq_ok {α : Type} {eq : α → α → Bool} {values : List α} {field : String} {v : α}
    (h : uniform eq values field = .ok v) : v ∈ values := by
  match values with
  | [] => exact nomatch h
  | first :: rest =>
    rw [uniform] at h
    split at h
    · exact Except.ok.inj h ▸ List.mem_cons_self
    · exact nomatch h

theorem uintValue_eq_ok {value : PyValue} {field : String} {n : ℕ} :
    uintValue value field = .ok n ↔ value = .int n ∧ 1 ≤ n ∧ n ≤ uint64Max := by
  rcases value with _ | _ | m | _ | _ | _
  case int =>
    rw [uintValue, Except.bind_eq_ok]
    simp only [Except.raiseIf_eq_ok, Except.pure_eq_ok, PyValue.int.injEq, exists_const]
    constructor
    · rintro ⟨hrange, rfl⟩
      simp only [Bool.false_eq_true, if_false] at hrange
      omega
    · rintro ⟨rfl, hrange⟩
      simp only [Bool.false_eq_true, if_false]
      omega
  all_goals exact ⟨by rintro ⟨⟩, by rintro ⟨⟨⟩, _⟩⟩

/-- **A required attribute is one of those named, an integer in range.** -/
theorem positiveAttr_eq_ok {values : List PyValue} {field : String} {n : ℕ}
    (h : positiveAttr values field = .ok n) :
    .int n ∈ values ∧ 1 ≤ n ∧ n ≤ uint64Max := by
  induction values with
  | nil => exact nomatch h
  | cons value values ih =>
    rcases value with _ | _ | m | _ | _ | _
    case none => exact ⟨List.mem_cons_of_mem _ (ih h).1, (ih h).2⟩
    all_goals
      obtain ⟨heq, hrange⟩ := uintValue_eq_ok.mp h
      exact ⟨heq ▸ List.mem_cons_self, hrange⟩

theorem uniformAttr_eq_ok {members : List SpecAttributes}
    {attributes : SpecAttributes → List PyValue} {field mixed : String} {n : ℕ}
    (h : uniformAttr members attributes field mixed = .ok n) : 1 ≤ n ∧ n ≤ uint64Max := by
  obtain ⟨values, hvalues, huniform⟩ := Except.bind_eq_ok.mp h
  obtain ⟨member, -, hmember⟩ := Except.exists_of_mem_mapM hvalues (uniform_eq_ok huniform)
  exact (positiveAttr_eq_ok hmember).2

theorem isText_of_dtypeBits {name : String} {bits : ℕ} (h : dtypeBits name = some bits) :
    IsText name := by
  unfold dtypeBits at h
  split at h
  case h_12 => exact nomatch h
  all_goals exact ⟨by decide +kernel, by decide +kernel⟩

/-- A certified element type carries its dtype's own name. -/
theorem plannedElementType_eq_ok {I : Interpreter} {dtype : String} {elementType : ElementType}
    (h : plannedElementType I dtype = .ok elementType) :
    dtypeBits elementType.name = some elementType.bits := by
  unfold plannedElementType at h
  generalize removePrefix "torch." (lower (strip dtype)) = name at h
  rcases hbits : dtypeBits name with _ | bits
  · simp only [hbits] at h
    exact nomatch h
  · simp only [hbits, ElementType.postInit, Except.bind_eq_ok, Except.raiseIf_eq_ok,
      Except.pure_eq_ok, (isText_of_dtypeBits hbits).text_eq, Except.ok.injEq] at h
    obtain ⟨_, rfl, -, -, -, -, rfl⟩ := h
    exact hbits

/-- **What the extraction of the group at an index guarantees.** -/
structure CacheGroupTopology.Certified (group : CacheGroupTopology) (index : ℕ) : Prop where
  groupId : group.groupId = vllmGroupId index
  layers_ne_nil : group.layers ≠ []
  layers : ∀ layer ∈ group.layers, IsText layer
  blockSizeTokens : 1 ≤ group.blockSizeTokens
  kvHeads : 1 ≤ group.kvHeads
  keyHeadDim : 1 ≤ group.keyHeadDim
  valueHeadDim : 1 ≤ group.valueHeadDim
  elementType : dtypeBits group.elementType.name = some group.elementType.bits
  window : match group.policyKind with
    | .slidingWindow => ∃ window, group.windowTokens = some window ∧ 1 ≤ window
    | .fullAttention => group.windowTokens = none

theorem extractWindow_eq_ok {members : List SpecAttributes} {window : ℕ}
    (h : extractWindow members = .ok window) : 1 ≤ window := by
  simp only [extractWindow, Except.bind_eq_ok, Except.raiseIf_eq_ok, Except.pure_eq_ok] at h
  obtain ⟨_, -, -, -, _, htokens, _, -, _, -, -, -, rfl⟩ := h
  exact (uintValue_eq_ok.mp htokens).2.1

theorem certified_of_extractSpecTopology {I : Interpreter} {classifier : CacheSpecClassifier}
    {index : ℕ} {layers : List String} {spec : CacheSpec} {group : CacheGroupTopology}
    (hne : layers ≠ []) (hlayers : ∀ layer ∈ layers, IsText layer)
    (h : extractSpecTopology I classifier index layers spec = .ok group) :
    group.Certified index := by
  simp only [extractSpecTopology, Except.bind_eq_ok, Except.raiseIf_eq_ok, Except.pure_eq_ok] at h
  obtain ⟨_, hblock, _, -, _, -, policy, -, _, -, -, -, _, hheads, _, hkey, _, hvalue, _, htypes,
    _, htype, -, -, -, -, window, hwindow, _, -, rfl⟩ := h
  obtain ⟨member, -, hmember⟩ := Except.exists_of_mem_mapM htypes (uniform_eq_ok htype)
  refine ⟨rfl, hne, hlayers, (positiveAttr_eq_ok hblock).2.1, (uniformAttr_eq_ok hheads).1,
    (uniformAttr_eq_ok hkey).1, (uniformAttr_eq_ok hvalue).1, plannedElementType_eq_ok hmember, ?_⟩
  rcases policy with _ | _
  · exact (Except.ok.inj hwindow).symm
  · obtain ⟨tokens, htokens, hsome⟩ := Except.bind_eq_ok.mp hwindow
    exact ⟨tokens, (Except.pure_eq_ok.mp hsome).symm, extractWindow_eq_ok htokens⟩

theorem certified_of_extractGroupTopology {I : Interpreter} {classifier : CacheSpecClassifier}
    {rawGroup : RawGroup} {index : ℕ} {group : CacheGroupTopology}
    (h : extractGroupTopology I classifier rawGroup index = .ok group) :
    group.Certified index := by
  rw [extractGroupTopology] at h
  split at h
  · cases h
  · simp only [Except.bind_eq_ok, Except.raiseIf_eq_ok] at h
    obtain ⟨layers, hlayers, -, hne, hspec⟩ := h
    split at hspec
    · cases hspec
    · refine certified_of_extractSpecTopology hne (fun layer hlayer => ?_) hspec
      obtain ⟨raw, -, hraw⟩ := Except.exists_of_mem_mapM hlayers hlayer
      exact isText_of_text hraw

/-- **Every extracted group is certified**, under the ID of its own index. -/
theorem certified_of_extractCacheGroupTopologies {I : Interpreter}
    {classifier : CacheSpecClassifier} {config : ResolvedConfig} {groups : List CacheGroupTopology}
    (h : extractCacheGroupTopologies I classifier config = .ok groups) :
    groups ≠ [] ∧ (∀ pair ∈ groups.zipIdx, pair.1.Certified pair.2) ∧
      (groups.flatMap (·.layers)).Nodup := by
  simp only [extractCacheGroupTopologies, Except.bind_eq_ok, Except.raiseIf_eq_ok,
    Except.pure_eq_ok, not_not] at h
  obtain ⟨-, hraw, _, hgroups, -, hnodup, rfl⟩ := h
  rw [Except.mapM_eq_ok] at hgroups
  refine ⟨?_, ?_, hnodup⟩
  · rintro rfl
    exact hraw (List.zipIdx_eq_nil_iff.mp (List.forall₂_nil_right_iff.mp hgroups))
  · intro pair hpair
    obtain ⟨raw, -, hraw⟩ := Except.exists_of_mem_zipIdx_mapM hgroups hpair
    exact certified_of_extractGroupTopology hraw

theorem exists_certified {I : Interpreter} {classifier : CacheSpecClassifier}
    {config : ResolvedConfig} {groups : List CacheGroupTopology}
    (h : extractCacheGroupTopologies I classifier config = .ok groups) :
    ∀ group ∈ groups, ∃ index, group.Certified index := by
  intro group hgroup
  rw [← List.zipIdx_map_fst 0 groups, List.mem_map] at hgroup
  obtain ⟨pair, hpair, rfl⟩ := hgroup
  exact ⟨pair.2, (certified_of_extractCacheGroupTopologies h).2.1 pair hpair⟩

end Kapsl.Vllm
