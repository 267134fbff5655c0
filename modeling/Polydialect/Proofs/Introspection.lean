import Mathlib.Data.List.Forall2
import Mathlib.Data.List.TakeWhile
import Polydialect.Proofs.Codec
import Polydialect.Schema.Live

/-!
# Native types read back

A dialect writes the type of a column and a catalog gives it back as text. What that text is read as
(`Dialect.readBack`) is the type that it was written for, with the length of a bounded text, except
that a text too long for a bound comes back as an unbounded one.

* `NativeType.ofText_bounded`: the text of a bounded type is taken apart into its name and bound,
  for every bound; the other types are finitely many texts;
* `Dialect.readBack_readBack`: what was read back is written and read back unchanged;
* `Dialect.native_types_read_back`: both, and a table made from introspected columns is introspected
  as the same columns.
-/

namespace Polydialect

namespace Text

theorem toLower_of_isDigit {c : Char} (h : c.isDigit = true) : c.toLower = c := by
  have hd : 48 ≤ c.toNat ∧ c.toNat ≤ 57 := by
    simpa [Char.isDigit, UInt32.le_iff_toNat_le] using h
  delta Char.toLower
  rw [dif_neg]
  rintro ⟨hlow, -⟩
  have : 65 ≤ c.toNat := hlow
  omega

end Text

namespace NativeType

variable {n : Nat}

theorem not_mem_toDigits {c : Char} (hc : c.isDigit = false) (n : Nat) :
    c ∉ Nat.toDigits 10 n := fun h => by
  rw [Number.isDigit_of_mem_toDigits h] at hc
  cases hc

theorem map_toLower_toDigits (n : Nat) :
    (Nat.toDigits 10 n).map Char.toLower = Nat.toDigits 10 n := by
  have h : ∀ c ∈ Nat.toDigits 10 n, c.toLower = id c := fun c hc =>
    Text.toLower_of_isDigit (Number.isDigit_of_mem_toDigits hc)
  rw [List.map_congr_left h, List.map_id]

theorem trimmed_toDigits (n : Nat) : Text.trimmed (Nat.toDigits 10 n) = Nat.toDigits 10 n :=
  Text.trimmed_eq_self fun _ hc => Text.isBlank_of_isDigit (Number.isDigit_of_mem_toDigits hc)

theorem lengthOf?_toDigits (hn : n ≤ Number.maxInt64) :
    lengthOf? (Nat.toDigits 10 n) = some (Int64.ofNat n) := by
  have hcomma : ',' ∉ Nat.toDigits 10 n := not_mem_toDigits (by decide) n
  have hread : Number.readInt64 (.ofList (Nat.toDigits 10 n)) = .ok (Int64.ofNat n) :=
    Number.readInt64_repr hn
  simp only [lengthOf?, Text.before_eq_self hcomma, trimmed_toDigits, hread]

theorem map_toLower_bounded (name : List Char) (n : Nat) :
    (name ++ '(' :: (Nat.toDigits 10 n ++ [')'])).map Char.toLower =
      name.map Char.toLower ++ '(' :: (Nat.toDigits 10 n ++ [')']) := by
  rw [List.map_append, List.map_cons, List.map_append, map_toLower_toDigits]
  rfl

theorem not_blank_bounded {name : List Char} (h : ∀ c ∈ name, Text.isBlank c = false) (n : Nat) :
    ∀ c ∈ name ++ '(' :: (Nat.toDigits 10 n ++ [')']), Text.isBlank c = false := by
  refine List.forall_mem_append.2 ⟨h, List.forall_mem_cons.2 ⟨by decide, ?_⟩⟩
  refine List.forall_mem_append.2 ⟨fun c hc => ?_, List.forall_mem_singleton.2 (by decide)⟩
  exact Text.isBlank_of_isDigit (Number.isDigit_of_mem_toDigits hc)

theorem ofText_bounded {name : String} (hname : ∀ c ∈ name.toList, Text.isBlank c = false)
    (hlower : ∀ c ∈ name.toList.map Char.toLower, Text.isBlank c = false ∧ c ≠ '(')
    (hn : n ≤ Number.maxInt64) :
    ofText (name ++ "(" ++ toString n ++ ")") =
      ⟨.ofList (name.toList.map Char.toLower), some (Int64.ofNat n)⟩ := by
  have htext : (name ++ "(" ++ toString n ++ ")").toList =
      name.toList ++ '(' :: (Nat.toDigits 10 n ++ [')']) := by
    simp [Nat.toString_eq_repr, Nat.toList_repr]
  have hopen : '(' ∉ name.toList.map Char.toLower := fun h => (hlower _ h).2 rfl
  have hclose : ')' ∉ Nat.toDigits 10 n := not_mem_toDigits (by decide) n
  have hfamily := Text.trimmed_eq_self fun c hc => (hlower c hc).1
  -- the brackets that were written are the first of their kind, so the text is cut at them
  rw [ofText, htext, Text.trimmed_eq_self (not_blank_bounded hname n), map_toLower_bounded]
  simp only [Text.cut?_append hopen, Text.cut?_append hclose, hfamily, lengthOf?_toDigits hn]
  rfl

theorem typeOf_varchar {family : String} (h : family = "varchar" ∨ family = "nvarchar")
    (length : Int64) :
    typeOf (stem family) length = if length < 0 then .text else .varchar := by
  rcases h with rfl | rfl
  · rfl
  · rfl

theorem toInt_ofNat_toNat (length : UInt32) :
    (Int64.ofNat length.toNat).toInt = length.toNat := by
  have hlt := length.toNat_lt
  exact Int64.toInt_ofNat_of_lt (by omega)

theorem lengthBits_ofNat_toNat (length : UInt32) :
    lengthBits (Int64.ofNat length.toNat) = length := by
  have hlt : (length.toNat : Int) < UInt32.size := Int.ofNat_lt.2 length.toNat_lt_size
  rw [lengthBits, toInt_ofNat_toNat, Int.emod_eq_of_lt (Int.natCast_nonneg _) hlt, Int.toNat_natCast,
    UInt32.ofNat_toNat]

theorem canonical_bounded {name : String} (hname : name.toList.all (!Text.isBlank ·) = true)
    (hlower : (name.toList.map Char.toLower).all (fun c => !Text.isBlank c && c != '(') = true)
    (hfamily : String.ofList (name.toList.map Char.toLower) = "varchar" ∨
      String.ofList (name.toList.map Char.toLower) = "nvarchar")
    {length : UInt32} (hpos : length ≠ 0) :
    canonical (name ++ "(" ++ toString length.toNat ++ ")") 0 = (.varchar, length) := by
  have hn : length.toNat ≤ Number.maxInt64 := by
    have hlt := length.toNat_lt
    simp only [Number.maxInt64]
    omega
  -- a catalog marks an unbounded text by a negative length, which no bound is
  have hint := toInt_ofNat_toNat length
  have hzero : (0 : Int64).toInt = 0 := by decide
  have hnat : length.toNat ≠ 0 := fun h => hpos (UInt32.toNat.inj h)
  have hlt : ¬ Int64.ofNat length.toNat < 0 := by
    rw [Int64.lt_iff_toInt_lt, hint, hzero]
    omega
  have hgt : 0 < Int64.ofNat length.toNat := by
    rw [Int64.lt_iff_toInt_lt, hint, hzero]
    omega
  have hreported : reportedLength ⟨.ofList (name.toList.map Char.toLower),
      some (Int64.ofNat length.toNat)⟩ 0 = Int64.ofNat length.toNat := rfl
  have hname : ∀ c ∈ name.toList, Text.isBlank c = false := by simpa using hname
  have hlower : ∀ c ∈ name.toList.map Char.toLower, Text.isBlank c = false ∧ c ≠ '(' := by
    simpa only [List.all_eq_true, Bool.and_eq_true, Bool.not_eq_true', bne_iff_ne] using hlower
  simp only [canonical, ofText_bounded hname hlower hn, hreported, typeOf_varchar hfamily, if_neg hlt,
    columnLength, if_pos hgt, lengthBits_ofNat_toNat]

end NativeType

namespace Dialect

/-- Whether the type of a bounded text holds its bound. -/
def WritesBound (d : Dialect) (length : UInt32) : Prop :=
  match d with
  | .mysql => length ≤ 16383
  | .sqlServer => length ≤ 4000
  | .oracle => length ≤ 2000
  | .postgres | .sqlite => True

instance (d : Dialect) (length : UInt32) : Decidable (d.WritesBound length) :=
  match d with
  | .mysql | .sqlServer | .oracle => inferInstanceAs (Decidable (_ ≤ _))
  | .postgres | .sqlite => isTrue trivial

/-- What the type of a column is read back as. -/
def readBack (d : Dialect) (c : Column) : ColumnType × UInt32 :=
  if c.type = .varchar then
    if d.WritesBound c.effectiveLength then (.varchar, c.effectiveLength) else (.text, 0)
  else (c.type, 0)

variable {d : Dialect}

theorem varcharType_of_writesBound {length : UInt32} (h : d.WritesBound length) :
    d.varcharType length = d.varcharName ++ "(" ++ toString length.toNat ++ ")" := by
  cases d with
  | mysql | sqlServer | oracle => exact if_neg (UInt32.not_lt.2 h)
  | postgres | sqlite => rfl

theorem varcharType_of_not_writesBound {length : UInt32} (h : ¬ d.WritesBound length) :
    d.varcharType length = d.textType := by
  cases d with
  | mysql | sqlServer | oracle => exact if_pos (UInt32.not_le.1 h)
  | postgres | sqlite => exact absurd trivial h

theorem canonicalType_textType (hd : d ≠ .oracle) : d.canonicalType d.textType 0 = (.text, 0) := by
  cases d with
  | mysql | sqlServer | postgres | sqlite => decide +kernel
  | oracle => exact absurd rfl hd

theorem canonicalType_varcharName (hd : d ≠ .oracle) {length : UInt32} (hpos : length ≠ 0) :
    d.canonicalType (d.varcharName ++ "(" ++ toString length.toNat ++ ")") 0 =
      (.varchar, length) := by
  have hcanonical : NativeType.canonical (d.varcharName ++ "(" ++ toString length.toNat ++ ")") 0 =
      (.varchar, length) := by
    cases d with
    | mysql | sqlServer | postgres | sqlite =>
      exact NativeType.canonical_bounded (by decide) (by decide) (by decide) hpos
    | oracle => exact absurd rfl hd
  rw [canonicalType, if_neg, hcanonical]
  rintro ⟨rfl, hcompact⟩
  -- the name of a truth value on MySQL begins with another letter
  have hblank : Text.isBlank 'V' = false := by decide
  have hhead := congrArg List.head? hcompact
  simp [varcharName, hblank] at hhead

theorem effectiveLength_ne_zero {c : Column} (h : c.type = .varchar) : c.effectiveLength ≠ 0 := by
  rw [Column.effectiveLength]
  split
  · decide
  · rename_i hc
    exact fun hzero => hc ⟨h, hzero⟩

theorem canonicalType_nativeType (hd : d ≠ .oracle) (c : Column) :
    d.canonicalType (d.nativeType c) 0 = d.readBack c := by
  cases ht : c.type with
  | varchar =>
    simp only [nativeType, readBack, ht, if_true]
    split
    · rename_i h
      rw [varcharType_of_writesBound h, canonicalType_varcharName hd (effectiveLength_ne_zero ht)]
    · rename_i h
      rw [varcharType_of_not_writesBound h, canonicalType_textType hd]
  | text =>
    simp only [nativeType, readBack, ht]
    exact canonicalType_textType hd
  | integer | boolean | datetime | decimal =>
    -- one text for each type, whatever the length
    simp only [nativeType, readBack, ht, reduceCtorEq, if_false]
    cases d with
    | mysql | sqlServer | postgres | sqlite => decide +kernel
    | oracle => exact absurd rfl hd

theorem readBack_readBack {c c' : Column} (h : (c'.type, c'.length) = d.readBack c) :
    d.readBack c' = d.readBack c := by
  rw [readBack] at h ⊢
  split at h
  · rename_i ht
    split at h
    · rename_i hbound
      obtain ⟨ht', hl'⟩ := Prod.mk.inj h
      -- the default length was written out the first time, so none is filled in again
      have hl : c'.effectiveLength = c.effectiveLength := by
        rw [Column.effectiveLength, if_neg, hl']
        exact fun hc => effectiveLength_ne_zero ht (hl' ▸ hc.2)
      rw [if_pos ht', hl, readBack, if_pos ht]
    · rename_i hbound
      obtain ⟨ht', -⟩ := Prod.mk.inj h
      rw [ht', readBack, if_pos ht, if_neg hbound]
      rfl
  · rename_i ht
    obtain ⟨ht', -⟩ := Prod.mk.inj h
    rw [ht', readBack, if_neg ht, if_neg ht]

/-- A default length that is written out changes nothing. -/
theorem readBack_effectiveLength (c : Column) :
    d.readBack { c with length := c.effectiveLength } = d.readBack c := by
  have h : Column.effectiveLength { c with length := c.effectiveLength } = c.effectiveLength := by
    by_cases ht : c.type = .varchar
    · rw [Column.effectiveLength, if_neg fun hc => effectiveLength_ne_zero ht hc.2]
    · rw [Column.effectiveLength, if_neg fun hc => ht hc.1]
  simp only [readBack, h]

/-- A column that was read back has the fixed shape of its name already. -/
theorem readBack_normalized {c c' : Column} (hname : c'.name = c.name)
    (h : (c'.type, c'.length) = d.readBack c.normalized) :
    d.readBack c'.normalized = d.readBack c.normalized := by
  have hn (name : String) : c'.isNamed name = c.isNamed name := by
    rw [Column.isNamed, Column.isNamed, hname]
  -- a reserved name has one type and length, whatever was read back for it
  by_cases hid : c.isNamed Column.idName = true
  · simp [readBack, Column.normalized, Column.reserved, hn, hid]
  · by_cases hguid : c.isNamed Column.guidName = true
    · simp [readBack, Column.normalized, Column.reserved, Column.effectiveLength, hn, hid, hguid]
    · by_cases hmodified : c.isNamed Column.modifiedName = true
      · simp [readBack, Column.normalized, Column.reserved, hn, hid, hguid, hmodified]
      · simp only [Column.normalized, Column.reserved, hn, hid, hguid, hmodified,
          readBack_effectiveLength] at h ⊢
        exact readBack_readBack h

end Dialect

namespace Schema

/-- A catalog row reports a column of a table that was made: its name and the text of its type,
which alone holds its length. -/
structure Reports (d : Dialect) (c : Column) (row : Row) : Prop where
  name : (row.get? "column_name").bind Value.toText? = some c.name
  type : (row.get? "data_type").bind Value.toText? = some (d.nativeType c.normalized)
  length : ((row.get? "max_length").bind Value.int?).getD 0 = 0

/-- What of a column its type says, beside its name. -/
def shape (c : Column) : String × ColumnType × UInt32 := (c.name, c.type, c.length)

/-- The shape of a column in a table that is made and introspected. -/
def shapeBack (d : Dialect) (c : Column) : String × ColumnType × UInt32 :=
  (c.name, d.readBack c.normalized)

variable {d : Dialect} {c : Column} {cs cs' : List Column} {row : Row} {rows : List Row}

theorem columnOfRow_of_reports (hd : d ≠ .oracle) (h : Reports d c row) :
    ∃ c', columnOfRow d row = .ok c' ∧ shape c' = shapeBack d c := by
  rw [shapeBack, ← Dialect.canonicalType_nativeType hd c.normalized]
  simp only [columnOfRow, h.name, h.type, h.length, Option.getD_some]
  exact ⟨_, rfl, rfl⟩

theorem mapM_columnOfRow (hd : d ≠ .oracle) (h : List.Forall₂ (Reports d) cs rows) :
    ∃ cs', rows.mapM (columnOfRow d) = .ok cs' ∧ cs'.map shape = cs.map (shapeBack d) := by
  induction h with
  | nil => exact ⟨[], List.mapM_nil, by rw [List.map_nil, List.map_nil]⟩
  | cons hrow _ ih =>
    obtain ⟨c', hc, hshape⟩ := columnOfRow_of_reports hd hrow
    obtain ⟨cs', hcs, hshapes⟩ := ih
    refine ⟨c' :: cs', ?_, ?_⟩
    · rw [List.mapM_cons, hc, hcs]
      rfl
    · rw [List.map_cons, List.map_cons, hshape, hshapes]

/-- Columns that were introspected keep their shapes. -/
theorem map_shapeBack (h : cs'.map shape = cs.map (shapeBack d)) :
    cs'.map (shapeBack d) = cs'.map shape := by
  rw [h]
  induction cs' generalizing cs with
  | nil => rw [← h, List.map_nil, List.map_nil]
  | cons c' cs' ih =>
    cases cs with
    | nil => exact absurd h (by simp)
    | cons c cs =>
      obtain ⟨hc, hcs⟩ := List.cons.inj h
      obtain ⟨hname, hback⟩ := Prod.mk.inj hc
      rw [List.map_cons, List.map_cons, ih hcs, shapeBack, shapeBack, hname,
        Dialect.readBack_normalized hname hback]

end Schema

namespace Dialect

open Schema

/-- On every dialect but Oracle, whose catalog reports other names, the native type of a column is
read back as its type, with the length of a bounded text, or as an unbounded text where its bound is
too great to be written. So the columns of a table that was made are introspected with these types,
and when a table is made from them, it is introspected with the same types and lengths. -/
theorem native_types_read_back {d : Dialect} (hd : d ≠ .oracle) :
    (∀ c : Column, d.canonicalType (d.nativeType c) 0 = d.readBack c) ∧
    ∀ (cs : List Column) (rows : List Row), List.Forall₂ (Reports d) cs rows →
      ∃ cs', rows.mapM (columnOfRow d) = .ok cs' ∧ cs'.map shape = cs.map (shapeBack d) ∧
        ∀ rows', List.Forall₂ (Reports d) cs' rows' →
          ∃ cs'', rows'.mapM (columnOfRow d) = .ok cs'' ∧ cs''.map shape = cs'.map shape := by
  refine ⟨canonicalType_nativeType hd, fun cs rows hrows => ?_⟩
  obtain ⟨cs', hcs, hshape⟩ := mapM_columnOfRow hd hrows
  refine ⟨cs', hcs, hshape, fun rows' hrows' => ?_⟩
  obtain ⟨cs'', hcs', hshape'⟩ := mapM_columnOfRow hd hrows'
  exact ⟨cs'', hcs', hshape'.trans (map_shapeBack hshape)⟩

/-- A table on MySQL: a bounded text without a length, one at the greatest bound, one behind it and
a truth value; and the table made from what is introspected. -/
theorem native_types_read_back_copy :
    ∃ (cs cs' cs'' : List Column) (rows rows' : List Row),
      List.Forall₂ (Reports .mysql) cs rows ∧ rows.mapM (columnOfRow .mysql) = .ok cs' ∧
      List.Forall₂ (Reports .mysql) cs' rows' ∧ rows'.mapM (columnOfRow .mysql) = .ok cs'' ∧
      cs.map shape = [("Title", .varchar, 0), ("Name", .varchar, 16383), ("Body", .varchar, 16384),
        ("Draft", .boolean, 0)] ∧
      cs'.map shape = [("Title", .varchar, 500), ("Name", .varchar, 16383), ("Body", .text, 0),
        ("Draft", .boolean, 0)] ∧
      cs''.map shape = cs'.map shape := by
  let column (name : String) (type : ColumnType) (length : UInt32) : Column :=
    { Column.plain name type with length := length }
  let row (name type : String) : Row :=
    ⟨["COLUMN_NAME", "DATA_TYPE", "MAX_LENGTH"], [.text name, .text type, .int 0]⟩
  let rows := [row "Title" "VARCHAR(500)", row "Name" "VARCHAR(16383)", row "Body" "LONGTEXT",
    row "Draft" "TINYINT(1)"]
  have hcells (name type : String) : (row name type).get? "column_name" = some (.text name) ∧
      (row name type).get? "data_type" = some (.text type) ∧
      (row name type).get? "max_length" = some (.int 0) := by
    have hname : Text.sameName "COLUMN_NAME" "column_name" = true ∧
        Text.sameName "COLUMN_NAME" "data_type" = false ∧
        Text.sameName "COLUMN_NAME" "max_length" = false := by decide
    have htype : Text.sameName "DATA_TYPE" "data_type" = true ∧
        Text.sameName "DATA_TYPE" "max_length" = false := by decide
    have hlength : Text.sameName "MAX_LENGTH" "max_length" = true := by decide
    simp [row, Row.get?, Row.cells, hname, htype, hlength]
  have hreports {c : Column} {type : String} (h : Dialect.mysql.nativeType c.normalized = type) :
      Reports .mysql c (row c.name type) := by
    obtain ⟨hname, htype, hlength⟩ := hcells c.name type
    exact ⟨by rw [hname]; rfl, by rw [htype, h]; rfl, by rw [hlength]; rfl⟩
  have hrows : List.Forall₂ (Reports .mysql) [column "Title" .varchar 0, column "Name" .varchar 16383,
      column "Body" .varchar 16384, column "Draft" .boolean 0] rows :=
    .cons (hreports (by decide +kernel)) (.cons (hreports (by decide +kernel))
      (.cons (hreports (by decide +kernel)) (.cons (hreports (by decide +kernel)) .nil)))
  have hrows' : List.Forall₂ (Reports .mysql) [column "Title" .varchar 500,
      column "Name" .varchar 16383, column "Body" .text 0, column "Draft" .boolean 0] rows :=
    .cons (hreports (by decide +kernel)) (.cons (hreports (by decide +kernel))
      (.cons (hreports (by decide +kernel)) (.cons (hreports (by decide +kernel)) .nil)))
  obtain ⟨-, htables⟩ := native_types_read_back (d := .mysql) (by decide)
  obtain ⟨cs', hcs', hshape, hagain⟩ := htables _ rows hrows
  obtain rfl := Except.ok.inj (hcs'.symm.trans (by decide +kernel :
    rows.mapM (columnOfRow .mysql) = .ok [column "Title" .varchar 500,
      column "Name" .varchar 16383, column "Body" .text 0, column "Draft" .boolean 0]))
  obtain ⟨cs'', hcs'', hsame⟩ := hagain rows hrows'
  exact ⟨_, _, cs'', rows, rows, hrows, hcs', hrows', hcs'', rfl, rfl, hsame⟩

end Dialect

end Polydialect
