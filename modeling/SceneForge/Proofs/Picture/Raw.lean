import Mathlib.Tactic.Common
import SceneForge.Proofs.Picture.Targa

set_option autoImplicit false

/-!
# Raw TGA pictures

The colors of a raw TGA picture stand one after the other behind its header and its id field, row
after row, the first row being the top one or the bottom one. The color number `n` of the file goes
to the column `n mod width` of the row number `n / width` of the file, so every place of the picture
gets exactly one color, and the picture is known place by place.

## Main definitions

* `SceneForge.Picture.tabulate` — the picture with a given color at every place.
* `SceneForge.Targa.Depth.pixelAt` — the color with a given number among colors in a row.
* `SceneForge.Targa.Header.place` — where a color of the file goes.
* `SceneForge.Targa.spell` — a raw file of 32 bits for given colors.

## Main results

* `SceneForge.Targa.raw_eq_ok` — colors one after the other, byte by byte.
* `SceneForge.Targa.Header.arrange_rows` — rows of the file as rows of the picture.
* `SceneForge.Targa.Header.place_eq_iff` — every place gets exactly one color.
* `SceneForge.Targa.decode_raw` — raw pictures, and what is written as one.
-/

namespace SceneForge

/-- The picture with a given color at every place. Columns are counted from the left and rows from
the top. -/
def Picture.tabulate (width height : Nat) (color : Nat → Nat → Color) : Picture :=
  ⟨width, height, (List.range height).flatMap fun y => (List.range width).map fun x => color x y⟩

/-- A picture depends on the colors at its own places only. -/
lemma Picture.tabulate_congr {width height : Nat} {color color' : Nat → Nat → Color}
    (h : ∀ x < width, ∀ y < height, color x y = color' x y) :
    Picture.tabulate width height color = Picture.tabulate width height color' := by
  have hrows : ∀ y ∈ List.range height, ((List.range width).map fun x => color x y) =
      (List.range width).map fun x => color' x y := by
    intro y hy
    exact List.map_congr_left fun x hx => h x (List.mem_range.mp hx) y (List.mem_range.mp hy)
  rw [tabulate, tabulate, List.flatMap_def, List.flatMap_def, List.map_congr_left hrows]

/-! ## Rows -/

/-- Lists of one length are cut from their concatenation again. -/
lemma chunks_flatten {α : Type} (size : Nat) (xss : List (List α))
    (h : ∀ xs ∈ xss, xs.length = size) : chunks size xss.length xss.flatten = xss := by
  induction xss with
  | nil => rfl
  | cons xs xss ih =>
    obtain ⟨hxs, hxss⟩ := List.forall_mem_cons.mp h
    rw [List.length_cons, chunks, List.flatten_cons, ← hxs, List.take_left, List.drop_left, hxs,
      ih hxss]

/-- Numbers in order are those of the columns of one row after the other. -/
lemma map_range_mul {α : Type} (width height : Nat) (f : Nat → α) :
    (List.range (width * height)).map f =
      (List.range height).flatMap fun r => (List.range width).map fun x => f (r * width + x) := by
  induction height with
  | zero => rfl
  | succ height ih =>
    rw [Nat.mul_succ, List.range_add, List.map_append, ih, List.range_succ, List.flatMap_append,
      List.flatMap_singleton, List.map_map, Nat.mul_comm width height]
    rfl

namespace Targa

variable {d : Depth}

/-! ## Colors one after the other -/

/-- The color that the bytes of a cell spell: a covering grey, or blue, green and red, which are
covering or followed by their coverage. -/
def Depth.pixel (d : Depth) (byte : Nat → UInt8) : Pixel :=
  match d with
  | .grey => ⟨byte 0, byte 0, byte 0, 255⟩
  | .bgr => ⟨byte 2, byte 1, byte 0, 255⟩
  | .bgra => ⟨byte 2, byte 1, byte 0, byte 3⟩

/-- The color with a given number among those that stand one after the other. -/
def Depth.pixelAt (d : Depth) (bytes : Bytes) (n : Nat) : Pixel :=
  d.pixel fun i => bytes.getD (n * d.size + i) 0

/-- Colors behind the first one have smaller numbers among those behind it. -/
lemma Depth.pixelAt_drop (bytes : Bytes) (n : Nat) :
    d.pixelAt (bytes.drop d.size) n = d.pixelAt bytes (n + 1) := by
  have hbyte : ∀ i, (bytes.drop d.size).getD (n * d.size + i) 0 =
      bytes.getD ((n + 1) * d.size + i) 0 := by
    intro i
    have hposition : d.size + (n * d.size + i) = (n + 1) * d.size + i := by
      rw [Nat.succ_mul]
      omega
    rw [List.getD_eq_getElem?_getD, List.getElem?_drop, hposition, List.getD_eq_getElem?_getD]
  simp only [Depth.pixelAt, hbyte]

/-- The first color is read if its bytes are there. -/
lemma color?_eq_some {bytes : Bytes} (h : d.size ≤ bytes.length) :
    color? d bytes = some (.narrow (d.pixelAt bytes 0), bytes.drop d.size) := by
  cases d with
  | grey =>
    match bytes, h with
    | y :: rest, _ => rfl
  | bgr =>
    match bytes, h with
    | b :: g :: r :: rest, _ => rfl
  | bgra =>
    match bytes, h with
    | b :: g :: r :: a :: rest, _ => rfl

/-- **Colors one after the other** are read if their bytes are there. -/
lemma raw_eq_ok {n : Nat} {bytes : Bytes} (h : n * d.size ≤ bytes.length) :
    raw d n bytes = .ok ((List.range n).map fun k => .narrow (d.pixelAt bytes k),
      bytes.drop (n * d.size)) := by
  induction n generalizing bytes with
  | zero => simp [raw]
  | succ n ih =>
    rw [Nat.succ_mul] at h
    have hrest : n * d.size ≤ (bytes.drop d.size).length := by
      rw [List.length_drop]
      omega
    simp only [raw, color?_eq_some (Nat.le_trans (Nat.le_add_left _ _) h), ih hrest,
      Depth.pixelAt_drop, List.drop_drop, List.range_succ_eq_map, List.map_cons, List.map_map,
      Nat.succ_mul, Nat.add_comm d.size]
    rfl

/-! ## Places -/

namespace Header

/-- The row of the picture that a row of the file is, and the row of the file that a row of the
picture is. -/
def row (h : Header) (r : Nat) : Nat := if h.topDown then r else h.height - 1 - r

/-- The place of a color of the file: its column, and its row in the picture. -/
def place (h : Header) (n : Nat) : Nat × Nat := (n % h.width, h.row (n / h.width))

variable {h : Header}

/-- Rows of the file are rows of the picture. -/
lemma row_lt {r : Nat} (hr : r < h.height) : h.row r < h.height := by
  unfold row
  split_ifs <;> omega

/-- Turned round twice, a row is where it was. -/
lemma row_row {r : Nat} (hr : r < h.height) : h.row (h.row r) = r := by
  unfold row
  split_ifs <;> omega

/-- **Every place gets exactly one color**: the one whose number counts the rows of the file in
front of the place and the columns left of it. -/
lemma place_eq_iff {x y : Nat} (hx : x < h.width) (hy : y < h.height) (n : Nat) :
    n < h.width * h.height ∧ h.place n = (x, y) ↔ n = h.row y * h.width + x := by
  rw [place, Prod.mk.injEq]
  constructor
  · rintro ⟨hn, hcolumn, hrow⟩
    have hr : n / h.width < h.height := Nat.div_lt_of_lt_mul hn
    rw [← hrow, row_row hr, ← hcolumn, Nat.mul_comm]
    exact (Nat.div_add_mod n h.width).symm
  · rintro rfl
    have hpos : 0 < h.width := Nat.zero_lt_of_lt hx
    have hr := row_lt hy
    refine ⟨?_, Nat.mul_add_mod_of_lt hx, ?_⟩
    · calc h.row y * h.width + x < (h.row y + 1) * h.width := by
            rw [Nat.succ_mul]
            exact Nat.add_lt_add_left hx _
        _ ≤ h.width * h.height := by
            rw [Nat.mul_comm]
            exact Nat.mul_le_mul_left _ hr
    · rw [Nat.mul_comm, Nat.mul_add_div hpos, Nat.div_eq_of_lt hx, Nat.add_zero, row_row hy]

/-- **Rows of the file as rows of the picture**, turned round if the first one is the bottom one. -/
lemma arrange_rows (h : Header) (color : Nat → Nat → Color) :
    h.arrange ((List.range h.height).flatMap fun r => (List.range h.width).map fun x => color x r) =
      .tabulate h.width h.height fun x y => color x (h.row y) := by
  have hrows : chunks h.width h.height ((List.range h.height).flatMap fun r =>
      (List.range h.width).map fun x => color x r) =
        (List.range h.height).map fun r => (List.range h.width).map fun x => color x r := by
    have hcut := chunks_flatten h.width
      ((List.range h.height).map fun r => (List.range h.width).map fun x => color x r) (by simp)
    rwa [List.length_map, List.length_range, ← List.flatMap_def] at hcut
  rw [arrange, hrows, Picture.tabulate, Picture.mk.injEq]
  refine ⟨rfl, rfl, ?_⟩
  rw [List.flatMap_def]
  congr 1
  split_ifs with htop
  · simp only [row, htop, if_true]
  · have hreverse : (List.range h.height).reverse =
        (List.range h.height).map (h.height - 1 - ·) := by
      conv_lhs => rw [List.range_eq_range', List.reverse_range', Nat.zero_add]
    rw [← List.map_reverse, hreverse, List.map_map]
    simp only [Function.comp_def, row, if_neg htop]

end Header

/-! ## Files -/

/-- Eighteen bytes are the header. -/
lemma drop_of_parse {data rest : Bytes} {h : Header} (hparse : Header.parse data = .ok (h, rest)) :
    data.length = 18 + rest.length ∧ data.drop 18 = rest := by
  obtain ⟨idLength, type, unused, w0, w1, h0, h1, bits, descriptor, hlen, rfl, -⟩ :=
    parse_eq_ok_iff.mp hparse
  match unused, hlen with
  | [a, b, c, d, e, f, g, i, j], _ =>
    refine ⟨?_, rfl⟩
    simp only [List.cons_append, List.nil_append, List.length_cons]
    omega

/-- The picture of a raw file whose colors are all there. -/
lemma decode_of_size_le {data rest : Bytes} {h : Header}
    (hparse : Header.parse data = .ok (h, rest)) (hraw : h.packed = false)
    (hsize : h.idLength + h.width * h.height * h.depth.size ≤ rest.length) :
    decode data = .ok (.tabulate h.width h.height fun x y =>
      .narrow (h.depth.pixelAt (rest.drop h.idLength) (h.row y * h.width + x))) := by
  have hbody : h.width * h.height * h.depth.size ≤ (rest.drop h.idLength).length := by
    rw [List.length_drop]
    omega
  have hcolors : colors h (rest.drop h.idLength) = .ok ((List.range (h.width * h.height)).map
      fun n => .narrow (h.depth.pixelAt (rest.drop h.idLength) n)) := by
    rw [colors, hraw, if_neg Bool.false_ne_true, if_neg (Nat.not_lt.mpr hbody), raw_eq_ok hbody]
    rfl
  rw [decode_of_parse hparse, if_neg (by omega), hcolors, map_range_mul]
  exact congrArg Except.ok (h.arrange_rows fun x r =>
    .narrow (h.depth.pixelAt (rest.drop h.idLength) (r * h.width + x)))

/-- A raw file whose colors are not all there is refused. -/
lemma decode_of_lt_size {data rest : Bytes} {h : Header}
    (hparse : Header.parse data = .ok (h, rest)) (hraw : h.packed = false)
    (hsize : rest.length < h.idLength + h.width * h.height * h.depth.size) :
    ∃ f, decode data = .error f := by
  rw [decode_of_parse hparse]
  by_cases hid : h.idLength > rest.length
  · rw [if_pos hid]
    exact ⟨_, rfl⟩
  · have hbody : (rest.drop h.idLength).length < h.width * h.height * h.depth.size := by
      rw [List.length_drop]
      omega
    rw [if_neg hid, colors, hraw, if_neg Bool.false_ne_true, if_pos hbody]
    exact ⟨_, rfl⟩

/-- Colors one after the other do not depend on what follows them. -/
lemma colors_append {h : Header} (hraw : h.packed = false) {body : Bytes} {cs : List Color}
    (hcolors : colors h body = .ok cs) (trailing : Bytes) :
    colors h (body ++ trailing) = .ok cs := by
  rw [colors, hraw, if_neg Bool.false_ne_true] at hcolors
  split_ifs at hcolors
  cases hread : raw h.depth (h.width * h.height) body with
  | error f =>
    rw [hread] at hcolors
    cases hcolors
  | ok r =>
    obtain ⟨read, rest⟩ := r
    obtain ⟨cells, hlen, rfl, rfl⟩ := raw_eq_ok_iff.mp hread
    rw [hread] at hcolors
    cases hcolors
    rw [List.append_assoc]
    exact colors_of_cells hraw hlen _

/-- A raw picture does not depend on what follows its colors. -/
lemma decode_append {data rest : Bytes} {h : Header} {picture : Picture}
    (hparse : Header.parse data = .ok (h, rest)) (hraw : h.packed = false)
    (hdecode : decode data = .ok picture) (trailing : Bytes) :
    decode (data ++ trailing) = .ok picture := by
  obtain ⟨h', id, body, cs, hparse', hid, hcolors, rfl⟩ := decode_eq_ok_iff.mp hdecode
  obtain ⟨rfl, rfl⟩ : h = h' ∧ rest = id ++ body := by
    rw [hparse] at hparse'
    cases hparse'
    exact ⟨rfl, rfl⟩
  refine decode_eq_ok_iff.mpr ⟨h, id, body ++ trailing, cs, ?_, hid,
    colors_append hraw hcolors trailing, rfl⟩
  rw [← List.append_assoc]
  exact parse_append hparse trailing

/-! ## Writing -/

/-- The bytes of a color with its coverage. -/
def cellOf (p : Pixel) : Cell .bgra := ⟨[p.b, p.g, p.r, p.a], rfl⟩

/-- The first eighteen bytes of a raw file of 32 bits without an id field. -/
def spellHead (topDown : Bool) (width height : Nat) : Bytes :=
  [0, 0, 2, 0, 0, 0, 0, 0, 0, 0, 0, 0, width.toUInt8, (width / 256).toUInt8, height.toUInt8,
    (height / 256).toUInt8, 32, if topDown then 0x20 else 0]

/-- A raw file of 32 bits: the rows from the top or from the bottom, each from the left. -/
def spell (topDown : Bool) (width height : Nat) (pixel : Nat → Nat → Pixel) : Bytes :=
  spellHead topDown width height ++ (List.range height).flatMap fun r =>
    (List.range width).flatMap fun x =>
      (cellOf (pixel x (if topDown then r else height - 1 - r))).bytes

/-- A width or height of two bytes. -/
lemma word_toUInt8 {n : Nat} (h : n ≤ 65535) : word n.toUInt8 (n / 256).toUInt8 = n := by
  simp only [word, Nat.toUInt8_eq, UInt8.toNat_ofNat']
  omega

/-- The header that is written is read. -/
lemma parse_spellHead (topDown : Bool) {width height : Nat} (hw : 1 ≤ width ∧ width ≤ 65535)
    (hh : 1 ≤ height ∧ height ≤ 65535) : Header.parse (spellHead topDown width height) =
      .ok (⟨0, width, height, .bgra, false, topDown⟩, []) := by
  refine parse_eq_ok_iff.mpr ⟨0, 2, [0, 0, 0, 0, 0, 0, 0, 0, 0], _, _, _, _, 32, _, rfl, rfl, rfl,
    ?_, ?_, ?_⟩
  · rw [word_toUInt8 hw.2]
    omega
  · rw [word_toUInt8 hh.2]
    omega
  · rw [word_toUInt8 hw.2, word_toUInt8 hh.2]
    cases topDown <;> rfl

/-- What is written as a raw file is read back, whatever follows it. -/
lemma decode_spell {topDown : Bool} {width height : Nat} (hw : 1 ≤ width ∧ width ≤ 65535)
    (hh : 1 ≤ height ∧ height ≤ 65535) (pixel : Nat → Nat → Pixel) (trailing : Bytes) :
    decode (spell topDown width height pixel ++ trailing) =
      .ok (.tabulate width height fun x y => .narrow (pixel x y)) := by
  let h : Header := ⟨0, width, height, .bgra, false, topDown⟩
  let cells : List (Cell h.depth) := (List.range height).flatMap fun r =>
    (List.range width).map fun x => cellOf (pixel x (h.row r))
  have hlen : cells.length = h.width * h.height := by
    simp [cells, h, List.length_flatMap, List.map_const', Nat.mul_comm]
  have hdata : spell topDown width height pixel ++ trailing =
      spellHead topDown width height ++ (image cells ++ trailing) := by
    rw [spell, List.append_assoc, image, List.flatMap_assoc]
    simp only [List.flatMap_map]
    rfl
  have hcolors : cells.map Cell.color = (List.range h.height).flatMap fun r =>
      (List.range h.width).map fun x => .narrow (pixel x (h.row r)) := by
    rw [List.map_flatMap]
    simp only [List.map_map]
    rfl
  have hparse := parse_append (parse_spellHead topDown hw hh) (image cells ++ trailing)
  rw [hdata]
  refine decode_eq_ok_iff.mpr ⟨h, [], image cells ++ trailing, _, hparse, rfl,
    colors_of_cells rfl hlen trailing, ?_⟩
  rw [hcolors, h.arrange_rows fun x r => .narrow (pixel x (h.row r))]
  exact Picture.tabulate_congr fun x _ y hy => by rw [Header.row_row hy]

/-- **Raw pictures, place by place.**

A raw file with an accepted header is read if and only if all its colors are there, behind the
header and the id field, and then the picture has at every place the color of the file with the
number that counts the rows in front of it and the columns left of it. The reader puts the color
number `n` at `Header.place`, and so at every place exactly one; it ignores whatever follows the
colors. Colors that are written as a raw file of 32 bits, in either order of rows, are read back.

**Proof sketch.** Colors one after the other are read by induction (`raw_eq_ok`). Their numbers are
  those of the columns of one row after the other (`map_range_mul`), and rows of the file become
  rows of the picture (`Header.arrange_rows`). A written file is the cells of its colors, so that it
  is read by the same arrangement (`decode_spell`). -/
theorem decode_raw :
    (∀ (data rest : Bytes) (h : Header), Header.parse data = .ok (h, rest) → h.packed = false →
      (∀ picture, decode data = .ok picture ↔
        18 + h.idLength + h.width * h.height * h.depth.size ≤ data.length ∧
          picture = .tabulate h.width h.height fun x y =>
            .narrow (h.depth.pixelAt (data.drop (18 + h.idLength)) (h.row y * h.width + x))) ∧
      (∀ x < h.width, ∀ y < h.height, ∀ n,
        n < h.width * h.height ∧ h.place n = (x, y) ↔ n = h.row y * h.width + x) ∧
      ∀ trailing, 18 + h.idLength + h.width * h.height * h.depth.size ≤ data.length →
        decode (data ++ trailing) = decode data) ∧
    ∀ (topDown : Bool) (width height : Nat) (pixel : Nat → Nat → Pixel) (trailing : Bytes),
      1 ≤ width ∧ width ≤ 65535 → 1 ≤ height ∧ height ≤ 65535 →
        decode (spell topDown width height pixel ++ trailing) =
          .ok (.tabulate width height fun x y => .narrow (pixel x y)) := by
  refine ⟨fun data rest h hparse hraw => ?_, fun topDown width height pixel trailing hw hh =>
    decode_spell hw hh pixel trailing⟩
  obtain ⟨hlen, hrest⟩ := drop_of_parse hparse
  refine ⟨fun picture => ?_, fun x hx y hy n => Header.place_eq_iff hx hy n,
    fun trailing hsize => ?_⟩
  · rw [← List.drop_drop, hrest]
    constructor
    · intro hdecode
      by_cases hsize : h.idLength + h.width * h.height * h.depth.size ≤ rest.length
      · rw [decode_of_size_le hparse hraw hsize] at hdecode
        exact ⟨by omega, (Except.ok.inj hdecode).symm⟩
      · obtain ⟨f, hf⟩ := decode_of_lt_size hparse hraw (Nat.not_le.mp hsize)
        rw [hf] at hdecode
        cases hdecode
    · rintro ⟨hsize, rfl⟩
      exact decode_of_size_le hparse hraw (by omega)
  · have hdecode := decode_of_size_le hparse hraw (by omega)
    rw [hdecode]
    exact decode_append hparse hraw hdecode trailing

/-- A raw file of two by two colors, the bottom row first, with an id field of one byte. -/
def quarters : Bytes :=
  [1, 0, 2, 0, 0, 0, 0, 0, 0, 0, 0, 0, 2, 0, 2, 0, 24, 0] ++ [7] ++
    [255, 0, 0, 255, 255, 255] ++ [0, 0, 255, 0, 255, 0]

/-- The second row of the file is the top row of the picture, with or without a byte behind it. -/
theorem decode_raw_quarters :
    Header.parse quarters = .ok (⟨1, 2, 2, .bgr, false, false⟩, quarters.drop 18) ∧
      decode quarters = .ok ⟨2, 2, [.narrow ⟨255, 0, 0, 255⟩, .narrow ⟨0, 255, 0, 255⟩,
        .narrow ⟨0, 0, 255, 255⟩, .narrow ⟨255, 255, 255, 255⟩]⟩ ∧
      decode (quarters ++ [9]) = decode quarters ∧
      (∀ n, n < 4 ∧ Header.place ⟨1, 2, 2, .bgr, false, false⟩ n = (1, 0) ↔ n = 3) ∧
      decode (spell false 2 1 (fun x _ => ⟨x.toUInt8, 8, 9, 10⟩) ++ [9]) =
        .ok ⟨2, 1, [.narrow ⟨0, 8, 9, 10⟩, .narrow ⟨1, 8, 9, 10⟩]⟩ := by
  have hparse : Header.parse quarters = .ok (⟨1, 2, 2, .bgr, false, false⟩, quarters.drop 18) := rfl
  obtain ⟨hdecode, hplace, htrailing⟩ := decode_raw.1 _ _ _ hparse rfl
  refine ⟨hparse, (hdecode _).mpr ⟨?_, ?_⟩, htrailing _ ?_, hplace 1 ?_ 0 ?_, ?_⟩
  · decide
  · rfl
  · decide
  · decide
  · decide
  · exact decode_raw.2 false 2 1 _ [9] (by decide) (by decide)

end Targa

end SceneForge
