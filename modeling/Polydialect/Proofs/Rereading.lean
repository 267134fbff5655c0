import Polydialect.Proofs.Decimal
import Polydialect.Proofs.Json.Canonical
import Polydialect.Proofs.Loading

/-!
# Cached results that are read again

A result that is cached as JSON is read from its text as it was, unless it holds something that does
not survive (`Repository.cached_results_survive`): a binary number whose numeral is not read as the
same number, the undefined number and the infinities among them, a decimal that is a zero with a
sign, a timestamp without a text of its own, or attributes with such numbers or too deep for the
reader. All other values survive, also inside of lists and records: every year and fraction of a
timestamp, every scale of a decimal, every text and all bytes.
-/

namespace Polydialect

/-! ## Lists of results -/

theorem mapM_bind_mapM {α β γ : Type} (f : α → Option β) (g : β → Option γ) (as : List α) :
    ((as.mapM f).bind fun bs => bs.mapM g) = as.mapM fun a => (f a).bind g := by
  induction as with
  | nil => rfl
  | cons a as ih =>
    rw [List.mapM_cons, List.mapM_cons, ← ih]
    cases f a with
    | none => rfl
    | some b =>
      cases as.mapM f with
      | none => cases hg : g b <;> simp [hg]
      | some bs => simp [List.mapM_cons]

theorem mapM_eq_self_iff {α : Type} {f : α → Option α} {as : List α} :
    as.mapM f = some as ↔ ∀ a ∈ as, f a = some a := by
  rw [mapM_eq_some_iff, List.forall₂_same]

namespace Json

theorem reread?_string (depth : Nat) (s : String) : reread? depth (.string s) = some (.string s) :=
  congrArg (Option.map Json.string) (Source.nameOf?_escaped s)

theorem reread?_integer (depth : Nat) {n : Int} (hmin : -(Number.maxInt64 + 1 : Int) ≤ n)
    (hmax : n < UInt64.size) : reread? depth (.integer n) = some (.integer n) :=
  Numeral.value?_ofInt hmin hmax

theorem reread?_ofInt64 (depth : Nat) (n : Int64) :
    reread? depth (.ofInt64 n) = some (.ofInt64 n) := by
  have hmin := n.le_toInt
  have hmax := n.toInt_lt
  refine reread?_integer depth ?_ ?_
  · simp only [Number.maxInt64]
    omega
  · simp only [UInt64.size]
    omega

/-- An object of one member. -/
theorem reread?_single (depth : Nat) (k : String) (j : Json) :
    reread? (depth + 1) (.object [(k, j)]) =
      (reread? depth j).map fun j => .object [(k, j)] := by
  rw [reread?_object, List.mapM_cons]
  cases reread? depth j <;> rfl

end Json

/-! ## Values -/

namespace Value

open Json

/-- A value that is read from its JSON text as it was: a binary number whose digits are read as the
same number, a decimal that is no zero with a sign, a timestamp with a text of its own, and every
value of another kind. -/
def Survives : Value → Prop
  | .real (.finite negative r) =>
    (Numeral.ofFinite negative r).value?.bind binary64OfJson? = some (.finite negative r)
  | .real _ => False
  | .decimal d => d.coefficient = 0 → d.negative = false
  | .timestamp t => t.HasOwnText
  | _ => True

theorem int64OfJson?_ofInt64 (n : Int64) : int64OfJson? (.ofInt64 n) = some n := by
  have hbounds : Int64.minValue.toInt ≤ n.toInt ∧ n.toInt ≤ Int64.maxValue.toInt :=
    ⟨n.minValue_le_toInt, Int.lt_add_one_iff.1 n.toInt_lt⟩
  rw [ofInt64, int64OfJson?, if_pos hbounds, Int64.ofInt_toInt]

theorem decimalOfJson?_toText (d : Decimal) :
    decimalOfJson? (.string d.toText) = Decimal.ofParts? d.negative d.coefficient d.scale := by
  have hsome : (Decimal.ofParts? d.negative d.coefficient d.scale).isSome = true := by
    rw [Decimal.ofParts?, dif_pos d.inRange]
    rfl
  obtain ⟨d', hd'⟩ := Option.isSome_iff_exists.1 hsome
  rw [decimalOfJson?, Decimal.ofText?_toText, hd']
  rfl

theorem reread?_bytes (depth : Nat) (bs : List UInt8) :
    reread? (depth + 1) (.array (bs.map fun b => .integer b.toNat)) =
      some (.array (bs.map fun b => .integer b.toNat)) := by
  have hitem : ∀ j ∈ bs.map fun b => Json.integer b.toNat, reread? depth j = some j := by
    refine List.forall_mem_map.2 fun b _ => reread?_integer depth ?_ ?_
    · simp only [Number.maxInt64]
      omega
    · have := b.toNat_lt
      simp only [UInt64.size]
      omega
  rw [reread?_array, mapM_eq_self_iff.2 hitem]
  rfl

theorem mapM_byteOfJson? (bs : List UInt8) :
    (bs.map fun b => Json.integer b.toNat).mapM byteOfJson? = some bs := by
  rw [List.mapM_map]
  refine mapM_eq_self_iff.2 fun b _ => ?_
  have hb : (0 : Int) ≤ b.toNat ∧ (b.toNat : Int) < 256 := by
    have := b.toNat_lt
    omega
  have hbyte : byteOfJson? (.integer b.toNat) =
      if (0 : Int) ≤ b.toNat ∧ (b.toNat : Int) < 256 then some (UInt8.ofNat b.toNat) else none :=
    rfl
  rw [Function.comp_apply, hbyte, if_pos hb, UInt8.ofNat_toNat]

/-- The value under the name of its kind. -/
theorem reread_member (depth : Nat) (k : String) (j : Json) :
    (reread? (depth + 1) (.object [(k, j)])).bind ofJson? =
      (reread? depth j).bind (ofMember? k) := by
  rw [reread?_single]
  cases reread? depth j <;> rfl

theorem ofMember?_int (j : Json) : ofMember? "I64" j = (int64OfJson? j).map .int := rfl

theorem ofMember?_decimal (j : Json) :
    ofMember? "Decimal" j = (decimalOfJson? j).map .decimal := rfl

theorem ofMember?_timestamp (s : String) :
    ofMember? "DateTime" (.string s) = (Timestamp.ofIso? s).map .timestamp := rfl

theorem ofMember?_bytes (items : List Json) :
    ofMember? "Bytes" (.array items) = (items.mapM byteOfJson?).map .bytes := rfl

/-- A value is read from its JSON text as it was just when it survives. -/
theorem reread_eq_some_iff (v : Value) (depth : Nat) :
    (reread? (depth + 2) v.toJson).bind ofJson? = some v ↔ v.Survives := by
  cases v with
  | null =>
    rw [toJson, reread?_string]
    exact iff_of_true rfl trivial
  | bool b =>
    rw [toJson, reread_member]
    exact iff_of_true rfl trivial
  | int n =>
    rw [toJson, reread_member, reread?_ofInt64, Option.bind_some, ofMember?_int,
      int64OfJson?_ofInt64]
    exact iff_of_true rfl trivial
  | real x =>
    rw [toJson, reread_member]
    cases x with
    | finite negative r =>
      have hread : (reread? (depth + 1) (ofBinary64 (.finite negative r))).bind (ofMember? "F64") =
          ((Numeral.ofFinite negative r).value?.bind binary64OfJson?).map Value.real :=
        Option.map_bind.symm
      rw [hread, Survives, Option.map_eq_some_iff]
      simp only [Value.real.injEq, exists_eq_right]
    | infinite negative => exact iff_of_false nofun id
    | nan => exact iff_of_false nofun id
  | decimal d =>
    rw [toJson, reread_member, reread?_string, Option.bind_some, ofMember?_decimal,
      decimalOfJson?_toText, Survives, ← Decimal.ofParts?_eq_self_iff]
    simp
  | text s =>
    rw [toJson, reread_member, reread?_string]
    exact iff_of_true rfl trivial
  | timestamp t =>
    rw [toJson, reread_member, reread?_string, Option.bind_some, ofMember?_timestamp,
      Timestamp.ofIso?_toIso, Survives, ← Timestamp.asWritten_eq_self_iff]
    simp
  | bytes bs =>
    rw [toJson, reread_member, reread?_bytes, Option.bind_some, ofMember?_bytes,
      mapM_byteOfJson?]
    exact iff_of_true rfl trivial

theorem isCanonical_toJson (v : Value) : v.toJson.IsCanonical := by
  have hmember (k : String) {j : Json} (hj : j.IsCanonical) : IsCanonical (.object [(k, j)]) :=
    isCanonical_object.2 ⟨List.pairwise_singleton _ _, List.forall_mem_singleton.2 hj⟩
  cases v with
  | null => rfl
  | bool b => exact hmember _ rfl
  | int n => exact hmember _ rfl
  | real x => cases x <;> exact hmember _ rfl
  | decimal d => exact hmember _ rfl
  | text s => exact hmember _ rfl
  | timestamp t => exact hmember _ rfl
  | bytes bs =>
    exact hmember _ (isCanonical_array.2 (List.forall_mem_map.2 fun b _ => rfl))

end Value

/-! ## Codecs -/

namespace Cache.Codec

variable {α : Type} {toJson : α → Json} {ofJson? : Json → Option α}

/-- A result is kept as a text, which is read as the result just when `p` holds. -/
def KeepsIff (codec : Codec α) (a : α) (p : Prop) : Prop :=
  ∃ text, codec.encode a = some text ∧ (codec.decode text = .ok a ↔ p)

/-- A result is read from the text of its canonical JSON. -/
theorem keepsIff_json {a : α} {j : Json} (hj : (toJson a).canonical = j) (hne : j ≠ .null) :
    (json toJson ofJson?).KeepsIff a ((j.reread? Json.Source.maxDepth).bind ofJson? = some a) := by
  refine ⟨j.toText, ?_, ?_⟩
  · rw [json, written]
    simp only [hj]
  · rw [json, written]
    simp only [Json.ofText?_toText, Option.bind_some]
    show _ ↔ (j.source.value?).bind ofJson? = some a
    cases j.source.value?.bind ofJson? <;> simp

theorem optionOfJson?_eq_some_iff (hnull : ofJson? .null = none) {j : Json} {a : α} :
    optionOfJson? ofJson? j = some (some a) ↔ ofJson? j = some a := by
  cases j with
  | null => simp [optionOfJson?, hnull]
  | _ => simp [optionOfJson?]

theorem keepsIff_optional (hnull : ofJson? .null = none) {a : α} (hc : (toJson a).IsCanonical)
    (hne : toJson a ≠ .null) :
    (optional toJson ofJson?).KeepsIff (some a)
      (((toJson a).reread? Json.Source.maxDepth).bind ofJson? = some a) := by
  obtain ⟨text, htext, hdecode⟩ : (optional toJson ofJson?).KeepsIff (some a)
      (((toJson a).reread? Json.Source.maxDepth).bind (optionOfJson? ofJson?) = some (some a)) :=
    keepsIff_json hc hne
  refine ⟨text, htext, hdecode.trans ?_⟩
  simp only [Option.bind_eq_some_iff, optionOfJson?_eq_some_iff hnull]

theorem keepsIff_list {as : List α} (hc : ∀ a ∈ as, (toJson a).IsCanonical) :
    (list toJson ofJson?).KeepsIff as
      (∀ a ∈ as, ((toJson a).reread? (Json.Source.maxDepth - 1)).bind ofJson? = some a) := by
  obtain ⟨text, htext, hdecode⟩ : (list toJson ofJson?).KeepsIff as
      (((Json.array (as.map toJson)).reread? Json.Source.maxDepth).bind (listOfJson? ofJson?) =
        some as) :=
    keepsIff_json (Json.isCanonical_array.2 (List.forall_mem_map.2 hc)) nofun
  refine ⟨text, htext, hdecode.trans ?_⟩
  have hread : ((Json.array (as.map toJson)).reread? Json.Source.maxDepth).bind
      (listOfJson? ofJson?) =
        as.mapM fun a => ((toJson a).reread? (Json.Source.maxDepth - 1)).bind ofJson? := by
    show (Json.reread? (126 + 1) _).bind _ = _
    rw [Json.reread?_array, Option.bind_map, List.mapM_map]
    exact mapM_bind_mapM _ ofJson? as
  rw [hread, mapM_eq_self_iff]

end Cache.Codec

/-! ## Records -/

/-- The attributes that are read from a row are in order. -/
theorem Entity.Base.isCanonical_ofTableRow (extend : Option String) (row : Row) :
    Json.IsCanonical (.object (ofTableRow extend row).extend) := by
  have hnone : Json.IsCanonical (.object []) := rfl
  have hattributes (v : Option Value) : Json.IsCanonical (.object (attributes v)) := by
    unfold attributes
    split
    · exact hnone
    · split
      · rename_i hmembers
        obtain ⟨j, -, hj⟩ := Option.map_eq_some_iff.1 hmembers
        exact hj ▸ Json.isCanonical_canonical j
      · exact hnone
  cases extend with
  | none => exact hnone
  | some column => exact hattributes _

namespace Record

open Json

/-- The names of the values and of the attributes stand in their order. -/
structure Ordered (e : Record) : Prop where
  extend : IsCanonical (.object e.base.extend)
  values : Keyed.Ordered e.values

/-- The record of a row is ordered, whatever its identifier and its time are. -/
theorem ordered_ofRow (row : Row) {b : Entity.Base} (h : IsCanonical (.object b.extend)) :
    Ordered (Entity.setBase b (ofRow row)) :=
  ⟨h, Keyed.ordered_ofPairs _⟩

/-- A record that is read from its JSON text as it was where `depth` containers may be opened for
its attributes. -/
def Survives (depth : Nat) (e : Record) : Prop :=
  (∀ p ∈ e.values, p.2.Survives) ∧
    reread? depth (.object e.base.extend) = some (.object e.base.extend) ∧
    ∀ t, e.base.modified = some t → t.HasOwnText

variable {e : Record} {depth : Nat}

/-- The values of a record in JSON. -/
def valuesJson (values : Keyed Value) : Json := .object (values.map fun p => (p.1, p.2.toJson))

theorem isCanonical_toJson (h : e.Ordered) : e.toJson.IsCanonical := by
  have hmodified : IsCanonical (.textOrNull (e.base.modified.map Timestamp.toIso)) := by
    cases e.base.modified <;> rfl
  have hvalues : IsCanonical (valuesJson e.values) :=
    isCanonical_object.2 ⟨h.values.congr (List.map_map ..),
      List.forall_mem_map.2 fun p _ => p.2.isCanonical_toJson⟩
  have hnames : ["extend", "guid", "id", "last_modified_date", "values"].Pairwise (· < ·) := by
    decide
  refine isCanonical_object.2 ⟨hnames, ?_⟩
  simp only [List.forall_mem_cons]
  exact ⟨h.extend, rfl, rfl, hmodified, hvalues, fun p hp => absurd hp List.not_mem_nil⟩

/-- The members of a record are read on their own. -/
theorem reread?_toJson (e : Record) (depth : Nat) :
    reread? (depth + 1) e.toJson =
      (reread? depth (.object e.base.extend)).bind fun x =>
        (reread? depth (valuesJson e.values)).map fun y =>
          .object [("extend", x), ("guid", .string e.base.guid), ("id", .ofInt64 e.base.id),
            ("last_modified_date", .textOrNull (e.base.modified.map Timestamp.toIso)),
            ("values", y)] := by
  have hmodified : reread? depth (.textOrNull (e.base.modified.map Timestamp.toIso)) =
      some (.textOrNull (e.base.modified.map Timestamp.toIso)) := by
    cases e.base.modified with
    | none => rfl
    | some t => exact reread?_string depth _
  rw [toJson, reread?_object]
  simp only [List.mapM_cons, List.mapM_nil, reread?_string, reread?_ofInt64, hmodified]
  show Option.map _ _ = (reread? depth (.object e.base.extend)).bind fun x =>
    (reread? depth (valuesJson e.values)).map _
  cases reread? depth (.object e.base.extend) with
  | none => rfl
  | some x => 
    show _ = Option.map _ (reread? depth (valuesJson e.values))
    unfold valuesJson
    cases reread? depth (.object (e.values.map fun p => (p.1, p.2.toJson))) <;> rfl

theorem modifiedOfJson?_textOrNull (t : Option Timestamp) :
    modifiedOfJson? (.textOrNull (t.map Timestamp.toIso)) = some (t.map Timestamp.asWritten) := by
  cases t with
  | none => rfl
  | some t =>
    rw [Option.map_some, textOrNull, modifiedOfJson?, Timestamp.ofIso?_toIso, Option.map_some,
      Option.map_some]

/-- A time is read from its text, or its absence, as it was just when the text is its own. -/
theorem map_asWritten_eq_self_iff {modified : Option Timestamp} :
    modified.map Timestamp.asWritten = modified ↔ ∀ t, modified = some t → t.HasOwnText := by
  cases modified with
  | none => simp
  | some t => simp [Timestamp.asWritten_eq_self_iff]

/-- The record of the members as they are written. -/
theorem ofJson?_members (guid : String) (id : Int64) (modified : Option Timestamp) (x y : Json) :
    ofJson? (.object [("extend", x), ("guid", .string guid), ("id", .ofInt64 id),
        ("last_modified_date", .textOrNull (modified.map Timestamp.toIso)), ("values", y)]) =
      (extendOfJson? x).bind fun extend =>
        (valuesOfJson? y).map fun values =>
          ⟨⟨id, guid, modified.map Timestamp.asWritten, extend⟩, values⟩ := by
  simp [ofJson?, Members.required?, Members.optional?, Members.only?, Members.named, text?,
    Value.int64OfJson?_ofInt64, modifiedOfJson?_textOrNull, bind_some_eq_map]

/-- Attributes are read as they were just when their JSON is. -/
theorem extend_reread_iff {extend : Keyed Json} (h : IsCanonical (.object extend)) (depth : Nat) :
    (reread? depth (.object extend)).bind extendOfJson? = some extend ↔
      reread? depth (.object extend) = some (.object extend) := by
  refine ⟨fun hread => ?_, fun hread => ?_⟩
  · obtain ⟨j, hj, hextend⟩ := Option.bind_eq_some_iff.1 hread
    have hc : j.canonical = j := isCanonical_reread h hj
    rw [extendOfJson?, hc] at hextend
    cases j with
    | object members =>
      cases hextend
      exact hj
    | _ => cases hextend
  · have hc : (Json.object extend).canonical = .object extend := h
    rw [hread, Option.bind_some, extendOfJson?, hc]

/-- Values under names that are read in the order of the names. -/
theorem ofPairs_mapM_eq_self_iff {f : Value → Option Value} {values : Keyed Value}
    (h : Keyed.Ordered values) :
    ((values.mapM fun p => (f p.2).map fun v => (p.1, v)).map Keyed.ofPairs) = some values ↔
      ∀ p ∈ values, f p.2 = some p.2 := by
  have hpair (p : String × Value) :
      ((f p.2).map fun v => (p.1, v)) = some p ↔ f p.2 = some p.2 := by
    simp [Prod.ext_iff]
  have hself : (values.mapM fun p => (f p.2).map fun v => (p.1, v)) = some values ↔
      ∀ p ∈ values, f p.2 = some p.2 :=
    mapM_eq_self_iff.trans (forall₂_congr fun p _ => hpair p)
  rw [← hself]
  refine ⟨fun hread => ?_, fun hread => by rw [hread, Option.map_some, Keyed.ofPairs_eq_self h]⟩
  -- what is read has the names of `values`, so putting it in order changes nothing
  obtain ⟨values', hvalues, hsorted⟩ := Option.map_eq_some_iff.1 hread
  have hnames := Keyed.map_fst_eq (mapM_eq_some_iff.1 hvalues)
  rw [hvalues, ← hsorted, Keyed.ofPairs_eq_self (h.congr hnames)]

/-- Values under names are read as they were just when each of them survives. -/
theorem values_reread_iff {values : Keyed Value} (h : Keyed.Ordered values) (depth : Nat) :
    (reread? (depth + 3) (valuesJson values)).bind valuesOfJson? = some values ↔
      ∀ p ∈ values, p.2.Survives := by
  have hread : (reread? (depth + 3) (valuesJson values)).bind valuesOfJson? =
      (values.mapM fun p =>
        ((reread? (depth + 2) p.2.toJson).bind Value.ofJson?).map fun v => (p.1, v)).map
          Keyed.ofPairs := by
    rw [valuesJson, reread?_object, List.mapM_map, Option.bind_map]
    refine Option.map_bind.symm.trans (congrArg (Option.map Keyed.ofPairs) ?_)
    rw [mapM_bind_mapM]
    refine congrArg (List.mapM · values) (funext fun p => ?_)
    show ((reread? (depth + 2) p.2.toJson).map _).bind _ = _
    cases reread? (depth + 2) p.2.toJson <;> rfl
  rw [hread]
  refine (ofPairs_mapM_eq_self_iff
    (f := fun v => (reread? (depth + 2) v.toJson).bind Value.ofJson?) h).trans ?_
  exact forall₂_congr fun p _ => p.2.reread_eq_some_iff depth

/-- A record is read from its JSON text as it was just when it survives. -/
theorem reread_eq_some_iff (h : e.Ordered) (depth : Nat) :
    (reread? (depth + 4) e.toJson).bind ofJson? = some e ↔ e.Survives (depth + 3) := by
  have hparts : (reread? (depth + 4) e.toJson).bind ofJson? =
      ((reread? (depth + 3) (.object e.base.extend)).bind extendOfJson?).bind fun extend =>
        ((reread? (depth + 3) (valuesJson e.values)).bind valuesOfJson?).map fun values =>
          ⟨⟨e.base.id, e.base.guid, e.base.modified.map Timestamp.asWritten, extend⟩, values⟩ := by
    rw [reread?_toJson]
    cases reread? (depth + 3) (.object e.base.extend) with
    | none => rfl
    | some x =>
      cases reread? (depth + 3) (valuesJson e.values) with
      | none => cases hx : extendOfJson? x <;> simp [hx]
      | some y => exact ofJson?_members ..
  rw [hparts, Survives, ← extend_reread_iff h.extend, ← values_reread_iff h.values depth,
    ← map_asWritten_eq_self_iff]
  obtain ⟨⟨id, guid, modified, extend⟩, values⟩ := e
  simp [Option.bind_eq_some_iff, and_comm, and_left_comm, and_assoc]

end Record

namespace Repository

open Cache Cache.Codec

theorem keepsIff_optionalValue (v : Value) : optionalValue.KeepsIff (some v) v.Survives := by
  obtain ⟨text, htext, hdecode⟩ : optionalValue.KeepsIff (some v)
      ((v.toJson.reread? (125 + 2)).bind Value.ofJson? = some v) :=
    keepsIff_optional rfl v.isCanonical_toJson (by cases v <;> nofun)
  exact ⟨text, htext, hdecode.trans (v.reread_eq_some_iff 125)⟩

theorem keepsIff_values (vs : List Value) : values.KeepsIff vs (∀ v ∈ vs, v.Survives) := by
  obtain ⟨text, htext, hdecode⟩ : values.KeepsIff vs
      (∀ v ∈ vs, (v.toJson.reread? (124 + 2)).bind Value.ofJson? = some v) :=
    keepsIff_list fun v _ => v.isCanonical_toJson
  exact ⟨text, htext, hdecode.trans (forall₂_congr fun v _ => v.reread_eq_some_iff 124)⟩

theorem keepsIff_entityCodec {e : Record} (h : e.Ordered) :
    entityCodec.KeepsIff (some e) (e.Survives 126) := by
  obtain ⟨text, htext, hdecode⟩ : entityCodec.KeepsIff (some e)
      ((e.toJson.reread? (123 + 4)).bind Record.ofJson? = some e) :=
    keepsIff_optional rfl (Record.isCanonical_toJson h) nofun
  exact ⟨text, htext, hdecode.trans (Record.reread_eq_some_iff h 123)⟩

theorem keepsIff_entitiesCodec {es : List Record} (h : ∀ e ∈ es, e.Ordered) :
    entitiesCodec.KeepsIff es (∀ e ∈ es, e.Survives 125) := by
  obtain ⟨text, htext, hdecode⟩ : entitiesCodec.KeepsIff es
      (∀ e ∈ es, (e.toJson.reread? (122 + 4)).bind Record.ofJson? = some e) :=
    keepsIff_list fun e he => Record.isCanonical_toJson (h e he)
  exact ⟨text, htext,
    hdecode.trans (forall₂_congr fun e he => Record.reread_eq_some_iff (h e he) 122)⟩

/-- The record that is made of a row is ordered, whether or not it gets a global identifier. -/
theorem ordered_materialize {r : Repository Record} {row : Row} {s : Session} {e : Record}
    (h : Step.result (r.materialize row) s = .ok e) : e.Ordered := by
  have hextend := Entity.Base.isCanonical_ofTableRow r.extendName? row
  obtain ⟨own, hown, h, -⟩ := Run.bind_eq_ok h
  obtain rfl : Record.ofRow row = own := Except.ok.inj hown
  rw [ensureGuid] at h
  split at h
  · cases h
    exact Record.ordered_ofRow row hextend
  · obtain ⟨guid, -, h, -⟩ := Run.bind_eq_ok h
    obtain ⟨now, -, h, -⟩ := Run.bind_eq_ok h
    obtain ⟨c, -, h, -⟩ := Run.bind_eq_ok h
    obtain ⟨⟨⟩, -, h, -⟩ := Run.bind_eq_ok h
    cases h
    rw [Entity.mapBase_setBase]
    exact Record.ordered_ofRow row hextend

/-- What is cached of a result that may be missing, of a list, of a record and of records: nothing
for a missing one, and for every other a text, from which the result is read as it was just when
what it holds survives. A reader opens at most 127 containers, and the attributes of a record stand
in one of them, in two where the record is one of a list. The records that are read from a table are
ordered. -/
theorem cached_results_survive (v : Value) (vs : List Value) {e : Record} {es : List Record}
    (he : e.Ordered) (hes : ∀ e ∈ es, e.Ordered) :
    (optionalValue.encode none = none ∧ optionalValue.KeepsIff (some v) v.Survives) ∧
    values.KeepsIff vs (∀ v ∈ vs, v.Survives) ∧
    (entityCodec.encode (none : Option Record) = none ∧
      entityCodec.KeepsIff (some e) (e.Survives 126)) ∧
    entitiesCodec.KeepsIff es (∀ e ∈ es, e.Survives 125) ∧
    ∀ (r : Repository Record) (row : Row) (s : Session) (e : Record),
      Step.result (r.materialize row) s = .ok e → e.Ordered :=
  ⟨⟨rfl, keepsIff_optionalValue v⟩, keepsIff_values vs, ⟨rfl, keepsIff_entityCodec he⟩,
    keepsIff_entitiesCodec hes, fun _ _ _ _ => ordered_materialize⟩

/-- A record with a leap second of a year with a sign, a decimal with a trailing zero, a text with a
control character, bytes and a binary number survives, and so does the list of its values. -/
theorem cached_results_survive_reading :
    ∃ (e : Record) (text listText : String), e.Ordered ∧ e.Survives 126 ∧
      entityCodec.encode (some e) = some text ∧ entityCodec.decode text = .ok (some e) ∧
      values.encode (e.values.map (·.2)) = some listText ∧
      values.decode listText = .ok (e.values.map (·.2)) ∧
      e.values.map (·.2.toText?) =
        [some "\x01\x02", some "+12345-06-30 23:59:60", some "1.50", some "\n", some "1.5"] := by
  let x : Binary64 := .finite false ⟨4609434218613702656, by decide +kernel⟩
  let made : Timestamp := ⟨12345, 6, 30, 23, 59, 59, 1000000000, by decide⟩
  let e : Record := ⟨⟨1, "", none, []⟩,
    [("Blob", .bytes [1, 2]), ("Made", .timestamp made),
      ("Price", .decimal ⟨false, 150, 2, by decide⟩), ("Title", .text "\n"),
      ("Weight", .real x)]⟩
  have hnames : ["Blob", "Made", "Price", "Title", "Weight"].Pairwise (· < ·) := by decide
  have hx : Value.Survives (.real x) := by
    unfold Value.Survives
    decide +kernel
  have hmade : made.HasOwnText := .inr rfl
  have ho : e.Ordered := ⟨rfl, hnames⟩
  have hvalues : ∀ p ∈ e.values, p.2.Survives := by
    simp only [e, List.forall_mem_cons, List.not_mem_nil, false_implies, implies_true, and_true]
    exact ⟨trivial, hmade, fun _ => rfl, trivial, hx⟩
  have hmodified : ∀ t, e.base.modified = some t → t.HasOwnText := fun t ht => by cases ht
  have hs : e.Survives 126 := ⟨hvalues, rfl, hmodified⟩
  obtain ⟨-, ⟨listText, hlist, hlistDecode⟩, ⟨-, text, htext, hdecode⟩, -⟩ :=
    cached_results_survive (.real x) (e.values.map (·.2)) ho (List.forall_mem_singleton.2 ho)
  exact ⟨e, text, listText, ho, hs, htext, hdecode.2 hs, hlist,
    hlistDecode.2 (List.forall_mem_map.2 hs.1), by decide +kernel⟩

/-- A number is read as the one after it, and the undefined number is not read at all. -/
theorem real_read_as_another :
    optionalValue.encode (some (.real (.ofRank false 4629487979381582466))) =
        some "\x7b\"F64\":31.245270191439438\x7d" ∧
      optionalValue.decode "\x7b\"F64\":31.245270191439438\x7d" =
        .ok (some (.real (.ofRank false 4629487979381582467))) ∧
      Binary64.ofRank false 4629487979381582466 ≠ .ofRank false 4629487979381582467 ∧
      optionalValue.encode (some (.real .nan)) = some "\x7b\"F64\":null\x7d" ∧
      optionalValue.decode "\x7b\"F64\":null\x7d" = .error .json := by
  decide +kernel

end Repository

end Polydialect
