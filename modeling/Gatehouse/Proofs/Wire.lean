import Gatehouse.Kind

/-!
The wire forms of the custom objects: what is written is read back.

A record is written as an object with all of its fields and read field by field, so its law is a
chain with one link for each field (`FieldReader.Reads`): the name that is read has to be one that
is written, with the value in the form that is read. A field that the one side misspells, forgets or
takes for another kind of field breaks its link. The links are put together for each record from the
laws of its parts. For an object it follows that its specification survives being written and read
again, from whatever JSON it came (`written_and_read`).
-/

set_option autoImplicit false

namespace Gatehouse

/-! ## 1. Reading what is there -/

namespace FieldReader

/-- From fields by name, the reader reads the value, and it leaves the fields as they are. Fields
that are read by name are never used up, so the links of a chain can be checked one by one against
the same list. -/
def Reads {α : Type} (read : FieldReader α) (fields : List (String × Json)) (a : α) : Prop :=
  read.run (.named fields) = some (a, .named fields)

namespace Reads

variable {α β : Type} {fields : List (String × Json)} {name : String} {b : β}

/-- The end of a chain: all fields are read, and the record is put together from them. -/
theorem pure (b : β) : Reads (Pure.pure b) fields b := rfl

/-- One link of a chain and the rest of it. The four links below are this one with the four ways to
read a field, so that the law of a record names them in the order in which it reads them. -/
theorem bind {read : FieldReader α} {next : α → FieldReader β} {a : α} (h : Reads read fields a)
    (hnext : Reads (next a) fields b) : Reads (read >>= next) fields b := by
  rw [Reads, StateT.run_bind, h]
  exact hnext

section Lawful

variable [Wire α] [LawfulWire α]

/-- A field that has to be there was written as the value itself. -/
theorem required {a : α} {next : α → FieldReader β} (h : fields.lookup name = some (encode a))
    (hnext : Reads (next a) fields b) : Reads (FieldReader.required name >>= next) fields b :=
  bind (run_required_named h) hnext

/-- So was a field with a default. The default plays no part, since what is written has all
fields. -/
theorem defaulted {a value : α} {next : α → FieldReader β}
    (h : fields.lookup name = some (encode a)) (hnext : Reads (next a) fields b) :
    Reads (FieldReader.defaulted name value >>= next) fields b :=
  bind (run_defaulted_named h) hnext

/-- A field that may be null was written as null or as its value, and the two are told apart because
no value is written as null (`LawfulWire.encode_ne_null`). -/
theorem nullable {a : Option α} {next : Option α → FieldReader β}
    (h : fields.lookup name = some (encodeNullable a)) (hnext : Reads (next a) fields b) :
    Reads (FieldReader.nullable name >>= next) fields b :=
  bind (run_nullable_named h) hnext

end Lawful

/-- A field with any JSON is read as it stands; nothing has to be known about its value. -/
theorem anything {value : Json} {next : Json → FieldReader β}
    (h : fields.lookup name = some value) (hnext : Reads (next value) fields b) :
    Reads (FieldReader.anything name >>= next) fields b :=
  bind (run_field_named h) hnext

end Reads

/-- A field that is there is read first, and then what comes after it. Here its value need not be
one that was written, so this is also what is used for objects that come from elsewhere. -/
theorem run_field_bind {α β : Type} {decode : Json → Option α} {missing past : Option α}
    {name : String} {fields : List (String × Json)} {value : Json} {next : α → FieldReader β}
    (h : fields.lookup name = some value) :
    (field decode missing past name >>= next).run (.named fields) =
      (decode value).bind fun a => (next a).run (.named fields) := by
  rw [StateT.run_bind, run_field_named h]
  cases decode value <;> rfl

end FieldReader

/-- A chain from the first field to the last is the law of a record that is written as an object.
With the fields of the record in front of it, each link is closed by evaluating a look-up. -/
theorem decodeRecord_obj {α : Type} {read : FieldReader α} {fields : List (String × Json)} {a : α}
    (h : read.Reads fields a) : decodeRecord read (.obj fields) = some a := by
  rw [decodeRecord, h]
  rfl

/-! ## 2. Virtual servers and their routes

One link for each field, in the order in which the fields are read. That a look-up finds the field
among those that are written is decided by computing it. -/

instance : LawfulWire ServerTls where
  decode_encode t := decodeRecord_obj <| .defaulted rfl <| .pure t
  encode_ne_null _ := nofun

/-- The name has to be there. A namespace that is left out is written as the empty text, which means
the same. -/
instance : LawfulWire PolicyRef where
  decode_encode p := decodeRecord_obj <| .required rfl <| .defaulted rfl <| .pure p
  encode_ne_null _ := nofun

instance : LawfulWire HttpUpstream where
  decode_encode u := decodeRecord_obj <| .required rfl <| .required rfl <| .required rfl <|
    .defaulted rfl <| .defaulted rfl <| .pure u
  encode_ne_null _ := nofun

instance : LawfulWire Redirect where
  decode_encode r := decodeRecord_obj <| .required rfl <| .nullable rfl <| .pure r
  encode_ne_null _ := nofun

/-- The body is the one field of an answer that has no default, and it is read last. -/
instance : LawfulWire Respond where
  decode_encode r := decodeRecord_obj <| .nullable rfl <| .defaulted rfl <| .required rfl <| .pure r
  encode_ne_null _ := nofun

instance : LawfulWire Proxy where
  decode_encode p := decodeRecord_obj <| .required rfl <| .pure p
  encode_ne_null _ := nofun

/-- All four fields are written, whichever the action is. That one of them is set is a matter of the
checks and not of the form. -/
instance : LawfulWire RouteAction where
  decode_encode a := decodeRecord_obj <| .defaulted rfl <| .nullable rfl <| .nullable rfl <|
    .nullable rfl <| .pure a
  encode_ne_null _ := nofun

/-- The action may be null, for a route that leaves its path to another object. The laws of what is
inside are found by the types of the fields. -/
instance : LawfulWire Route where
  decode_encode r := decodeRecord_obj <| .required rfl <| .defaulted rfl <| .nullable rfl <|
    .defaulted rfl <| .defaulted rfl <| .defaulted rfl <| .pure r
  encode_ne_null _ := nofun

/-- Nine links, none of them for a field that has to be there: the empty object is read as a
specification too, and is refused by the checks. -/
instance : LawfulWire VirtualServerSpec where
  decode_encode s := decodeRecord_obj <| .defaulted rfl <| .defaulted rfl <| .nullable rfl <|
    .defaulted rfl <| .defaulted rfl <| .defaulted rfl <| .defaulted rfl <| .defaulted rfl <|
    .defaulted rfl <| .pure s
  encode_ne_null _ := nofun

instance : LawfulWire VirtualServerRouteSpec where
  decode_encode s := decodeRecord_obj <| .defaulted rfl <| .defaulted rfl <| .defaulted rfl <|
    .defaulted rfl <| .pure s
  encode_ne_null _ := nofun

/-! ## 3. Transport servers and listeners -/

instance : LawfulWire ListenerRef where
  decode_encode l := decodeRecord_obj <| .required rfl <| .required rfl <| .pure l
  encode_ne_null _ := nofun

instance : LawfulWire StreamUpstream where
  decode_encode u := decodeRecord_obj <| .required rfl <| .required rfl <| .required rfl <|
    .defaulted rfl <| .nullable rfl <| .nullable rfl <| .defaulted rfl <| .pure u
  encode_ne_null _ := nofun

instance : LawfulWire UpstreamParameters where
  decode_encode p := decodeRecord_obj <| .nullable rfl <| .nullable rfl <| .defaulted rfl <|
    .defaulted rfl <| .defaulted rfl <| .defaulted rfl <| .pure p
  encode_ne_null _ := nofun

instance : LawfulWire SessionParameters where
  decode_encode p := decodeRecord_obj <| .defaulted rfl <| .pure p
  encode_ne_null _ := nofun

instance : LawfulWire StreamAction where
  decode_encode a := decodeRecord_obj <| .defaulted rfl <| .pure a
  encode_ne_null _ := nofun

/-- The listener is the one part without which nothing is read, and it is a record of its own. -/
instance : LawfulWire TransportServerSpec where
  decode_encode s := decodeRecord_obj <| .defaulted rfl <| .required rfl <| .defaulted rfl <|
    .defaulted rfl <| .defaulted rfl <| .defaulted rfl <| .nullable rfl <| .nullable rfl <|
    .nullable rfl <| .pure s
  encode_ne_null _ := nofun

/-- A listener has no defaults, so all of its fields have to be there. -/
instance : LawfulWire Listener where
  decode_encode l := decodeRecord_obj <| .required rfl <| .required rfl <| .required rfl <| .pure l
  encode_ne_null _ := nofun

instance : LawfulWire GlobalConfigurationSpec where
  decode_encode s := decodeRecord_obj <| .defaulted rfl <| .pure s
  encode_ne_null _ := nofun

/-! ## 4. Policies -/

instance : LawfulWire AccessControl where
  decode_encode a := decodeRecord_obj <| .defaulted rfl <| .defaulted rfl <| .pure a
  encode_ne_null _ := nofun

instance : LawfulWire RateLimit where
  decode_encode r := decodeRecord_obj <| .required rfl <| .required rfl <| .defaulted rfl <| .pure r
  encode_ne_null _ := nofun

instance : LawfulWire JwtAuth where
  decode_encode j := decodeRecord_obj <| .defaulted rfl <| .defaulted rfl <| .defaulted rfl <|
    .pure j
  encode_ne_null _ := nofun

instance : LawfulWire IngressMtls where
  decode_encode m := decodeRecord_obj <| .defaulted rfl <| .defaulted rfl <| .nullable rfl <|
    .pure m
  encode_ne_null _ := nofun

instance : LawfulWire EgressMtls where
  decode_encode m := decodeRecord_obj <| .defaulted rfl <| .defaulted rfl <| .defaulted rfl <|
    .defaulted rfl <| .pure m
  encode_ne_null _ := nofun

instance : LawfulWire Oidc where
  decode_encode o := decodeRecord_obj <| .defaulted rfl <| .defaulted rfl <| .defaulted rfl <|
    .defaulted rfl <| .defaulted rfl <| .defaulted rfl <| .pure o
  encode_ne_null _ := nofun

/-- One field for each sort of policy, null where the policy is of another one. Nothing in the form
keeps a policy from having several of them. -/
instance : LawfulWire PolicySpec where
  decode_encode s := decodeRecord_obj <| .defaulted rfl <| .nullable rfl <| .nullable rfl <|
    .nullable rfl <| .nullable rfl <| .nullable rfl <| .nullable rfl <| .pure s
  encode_ne_null _ := nofun

/-! ## 5. The objects of the firewalls

The parts that belong to the firewalls are any JSON, so nothing is asked of them. -/

/-- The body is kept as it came. What the controller reads of it later is looked up in the JSON. -/
instance : LawfulWire ApPolicySpec where
  decode_encode s := decodeRecord_obj <| .anything rfl <| .pure s
  encode_ne_null _ := nofun

instance : LawfulWire LogConfSpec where
  decode_encode s := decodeRecord_obj <| .anything rfl <| .anything rfl <| .pure s
  encode_ne_null _ := nofun

instance : LawfulWire ApUserSigSpec where
  decode_encode s := decodeRecord_obj <| .anything rfl <| .nullable rfl <| .nullable rfl <| .pure s
  encode_ne_null _ := nofun

instance : LawfulWire DosPolicySpec where
  decode_encode s := decodeRecord_obj <| .nullable rfl <| .nullable rfl <| .nullable rfl <|
    .nullable rfl <| .pure s
  encode_ne_null _ := nofun

instance : LawfulWire DosMonitor where
  decode_encode m := decodeRecord_obj <| .defaulted rfl <| .defaulted rfl <| .nullable rfl <|
    .pure m
  encode_ne_null _ := nofun

instance : LawfulWire DosSecurityLog where
  decode_encode l := decodeRecord_obj <| .defaulted rfl <| .defaulted rfl <| .defaulted rfl <|
    .pure l
  encode_ne_null _ := nofun

/-- The two records inside may be null and have laws of their own; everything else has a default. -/
instance : LawfulWire DosProtectedSpec where
  decode_encode s := decodeRecord_obj <| .defaulted rfl <| .defaulted rfl <| .nullable rfl <|
    .defaulted rfl <| .defaulted rfl <| .nullable rfl <| .pure s
  encode_ne_null _ := nofun

/-! ## 6. Custom objects -/

/-- The kinds of object with a specification of their own. -/
def Kind.custom : List Kind :=
  [.virtualServer, .virtualServerRoute, .transportServer, .globalConfiguration, .policy, .apPolicy,
    .apLogConf, .apUserSig, .dosPolicy, .dosLogConf, .dosProtected]

/-- The fields that the specification of a kind can have, in the order in which they are written.
They are listed here once more and on their own, so that a field missing from a writer shows. -/
def Kind.specFields : Kind → List String
  | .virtualServer =>
    ["ingressClassName", "host", "tls", "policies", "upstreams", "routes", "dos",
      "server-snippets", "http-snippets"]
  | .virtualServerRoute => ["ingressClassName", "host", "upstreams", "subroutes"]
  | .transportServer =>
    ["ingressClassName", "listener", "serverSnippets", "streamSnippets", "host", "upstreams",
      "upstreamParameters", "sessionParameters", "action"]
  | .globalConfiguration => ["listeners"]
  | .policy =>
    ["ingressClassName", "accessControl", "rateLimit", "jwt", "ingressMTLS", "egressMTLS", "oidc"]
  | .apPolicy => ["policy"]
  | .apLogConf | .dosLogConf => ["content", "filter"]
  | .apUserSig => ["signatures", "tag", "revisionDatetime"]
  | .dosPolicy => ["mitigation_mode", "signatures", "bad_actors", "automation_tools"]
  | .dosProtected =>
    ["enable", "name", "apDosMonitor", "dosAccessLogDest", "apDosPolicy", "dosSecurityLog"]
  | .ingress | .service | .endpoints | .secret => []

/-- The names of the fields of an object. -/
def Json.fieldNames (value : Json) : List String := (value.fields?.getD []).map Prod.fst

/-- An object with metadata and a specification, as the two come from outside. What else an object
carries, such as a status, is not read. -/
def customObject (metadata spec : Json) : Json := .obj [("metadata", metadata), ("spec", spec)]

/-- An object is read when its two parts are. Neither part is looked at when the other one is read,
so the specification can be exchanged for what it is written as. -/
theorem decode_customObject_iff {σ : Type} [Wire σ] {metadata spec : Json} {o : Custom σ} :
    Custom.decode (customObject metadata spec) = some o ↔
      Meta.decode metadata = some o.metadata ∧ decode spec = some o.spec := by
  -- The two fields are read one after the other, and neither reader sees what the other read.
  have hparts : Custom.decode (customObject metadata spec) =
      (Meta.decode metadata).bind fun m => (decode spec).map (Custom.mk (σ := σ) m) := by
    rw [Custom.decode, customObject, decodeRecord, FieldReader.run_field_bind rfl]
    cases Meta.decode metadata with
    | none => rfl
    | some m =>
      rw [Option.bind_some, FieldReader.required, FieldReader.run_field_bind rfl]
      cases (decode spec : Option σ) <;> rfl
  rw [hparts, Option.bind_eq_some_iff]
  constructor
  · rintro ⟨m, hm, h⟩
    obtain ⟨s, hs, rfl⟩ := Option.map_eq_some_iff.1 h
    exact ⟨hm, hs⟩
  · rintro ⟨hm, hs⟩
    exact ⟨o.metadata, hm, congrArg (Option.map (Custom.mk o.metadata)) hs⟩

/-- The JSON is what the specification of the object is written as. It has all fields that the kind
knows, and with the metadata it reads as the object. The metadata are those the object was read
from: they are not written again, and may have parts that nothing reads. -/
structure Rewritten (kind : Kind) (metadata : Json) (o : Object) (written : Json) : Prop where
  encoded : o.encodeSpec? = some written
  fieldNames : written.fieldNames = kind.specFields
  decoded : Object.decode kind (customObject metadata written) = some o

/-- An object of a kind with lawful specifications is read again from what is written. The
hypotheses say how the kind wraps the records of its type, and hold by computation for each of the
eleven kinds; the law of the specification is found by its type. -/
theorem exists_rewritten {σ : Type} [Wire σ] [LawfulWire σ] {kind : Kind} (wrap : Custom σ → Object)
    (hdecode : ∀ j, Object.decode kind j = (Custom.decode j).map wrap)
    (hencode : ∀ c, (wrap c).encodeSpec? = some (encode c.spec))
    (hnames : ∀ s : σ, (encode s).fieldNames = kind.specFields) {metadata spec : Json} {o : Object}
    (h : Object.decode kind (customObject metadata spec) = some o) :
    ∃ written, Rewritten kind metadata o written := by
  rw [hdecode, Option.map_eq_some_iff] at h
  obtain ⟨c, hc, rfl⟩ := h
  obtain ⟨hm, -⟩ := decode_customObject_iff.1 hc
  -- the specification that was read is what the written one reads as
  have hagain : Custom.decode (customObject metadata (encode c.spec)) = some c :=
    decode_customObject_iff.2 ⟨hm, LawfulWire.decode_encode c.spec⟩
  exact ⟨encode c.spec, hencode c, hnames c.spec, by rw [hdecode, hagain, Option.map_some]⟩

/-- The JSON forms of the custom objects survive a round trip. When an object of one of the custom
kinds is read from metadata and any JSON that its kind accepts as a specification, the specification
can be written with all fields that the kind knows; what is written is accepted with the same
metadata and gives the object again, which is written as the same JSON. -/
theorem written_and_read (kind : Kind) (hkind : kind ∈ Kind.custom) (metadata spec : Json)
    (o : Object) (h : Object.decode kind (customObject metadata spec) = some o) :
    ∃ written, Rewritten kind metadata o written ∧
      (Object.decode kind (customObject metadata written)).bind Object.encodeSpec? =
        some written := by
  -- the kinds differ in nothing but the type of the specification
  have hwritten : ∃ written, Rewritten kind metadata o written := by
    cases kind with
    | virtualServer =>
      exact exists_rewritten .virtualServer (fun _ => rfl) (fun _ => rfl) (fun _ => rfl) h
    | virtualServerRoute =>
      exact exists_rewritten .virtualServerRoute (fun _ => rfl) (fun _ => rfl) (fun _ => rfl) h
    | transportServer =>
      exact exists_rewritten .transportServer (fun _ => rfl) (fun _ => rfl) (fun _ => rfl) h
    | globalConfiguration =>
      exact exists_rewritten .globalConfiguration (fun _ => rfl) (fun _ => rfl) (fun _ => rfl) h
    | policy => exact exists_rewritten .policy (fun _ => rfl) (fun _ => rfl) (fun _ => rfl) h
    | apPolicy => exact exists_rewritten .apPolicy (fun _ => rfl) (fun _ => rfl) (fun _ => rfl) h
    | apLogConf => exact exists_rewritten .apLogConf (fun _ => rfl) (fun _ => rfl) (fun _ => rfl) h
    | apUserSig => exact exists_rewritten .apUserSig (fun _ => rfl) (fun _ => rfl) (fun _ => rfl) h
    | dosPolicy => exact exists_rewritten .dosPolicy (fun _ => rfl) (fun _ => rfl) (fun _ => rfl) h
    | dosLogConf =>
      exact exists_rewritten .dosLogConf (fun _ => rfl) (fun _ => rfl) (fun _ => rfl) h
    | dosProtected =>
      exact exists_rewritten .dosProtected (fun _ => rfl) (fun _ => rfl) (fun _ => rfl) h
    | ingress | service | endpoints | secret => simp [Kind.custom] at hkind
  obtain ⟨written, hrewritten⟩ := hwritten
  refine ⟨written, hrewritten, ?_⟩
  rw [hrewritten.decoded]
  exact hrewritten.encoded

/-- The specification of a virtual server with a null, a field that is not known and many that are
missing. What is written for it differs from it in all three respects. -/
def sparseServer : Json :=
  .obj [("host", .str "cafe.example.com"), ("tls", .null),
    ("upstreams", .arr [.obj [("name", .str "tea"), ("service", .str "tea-svc"), ("port", .int 80),
      ("slow-start", .str "10s")]]),
    ("routes", .arr [.obj [("path", .str "/tea"), ("action", .obj [("pass", .str "tea")])]])]

/-- What it is read as, in an object. -/
def readServer : VirtualServer :=
  ⟨{ Meta.blank with name := some "cafe", space := some "shop" },
    ⟨"", "cafe.example.com", none, [], [⟨"tea", "tea-svc", ⟨80, by decide⟩, false, ""⟩],
      [⟨"/tea", "", some ⟨"tea", none, none, none⟩, [], "", ""⟩], "", "", ""⟩⟩

/-- The sparse specification is read, and what is written for it has all fields and is read as the
same virtual server. -/
theorem written_and_read_sparse :
    let metadata : Json := .obj [("name", .str "cafe"), ("namespace", .str "shop")]
    let o : Object := .virtualServer readServer
    Object.decode .virtualServer (customObject metadata sparseServer) = some o ∧
      ∃ written, Rewritten .virtualServer metadata o written ∧
        (Object.decode .virtualServer (customObject metadata written)).bind Object.encodeSpec? =
          some written := by
  intro metadata o
  have hread : Object.decode .virtualServer (customObject metadata sparseServer) = some o := rfl
  exact ⟨hread, written_and_read .virtualServer (by decide) metadata sparseServer o hread⟩

end Gatehouse
