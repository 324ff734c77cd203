import SceneScript.Text.Utf8
/-!
# Opcodes of the scene machine

Names of the instructions. Bytes without a name appear in no script.
-/
namespace SceneScript.Opcode

/-- The opcodes by number with their names. -/
def table : List (UInt8 × String) := [
  (0x00, "nop"), (0x06, "Loop_Cond"), (0x09, "ext_Goto"), (0x0A, "ext_Call"), (0x0B, "ext_Goto2"),
  (0x0C, "ext_Call2"), (0x0D, "ret2"), (0x0E, "thread"), (0x14, "skip_jump"), (0x15, "key_wait"),
  (0x18, "message"), (0x1A, "windows"), (0x1B, "select"), (0x1C, "selectP"), (0x1D, "select2"), (0x1E, "popup"),
  (0x1F, "mes_sync"), (0x20, "scr_mode"), (0x21, "set_save_point"), (0x22, "clear_save_point"),
  (0x23, "set_prv_point"), (0x24, "mes_log"), (0x25, "auto_start"), (0x26, "auto_stop"), (0x27, "quick_Save"),
  (0x28, "title_display"), (0x29, "date_display"), (0x2B, "location_display"), (0x2C, "get_options"),
  (0x2D, "set_icon"), (0x2E, "menu_enable"), (0x2F, "menu_disable"), (0x30, "fade_out"), (0x31, "fade_in"),
  (0x32, "fade_out_start"), (0x33, "fade_out_stop"), (0x34, "fade_wait"), (0x36, "fade_pri"), (0x38, "filt_in"),
  (0x39, "filt_out"), (0x3A, "filt_in_start"), (0x3B, "filt_out_start"), (0x3C, "filt_wait"),
  (0x3E, "filt_pri"), (0x40, "char_init"), (0x42, "char_display"), (0x43, "char_ers"), (0x50, "char_no"),
  (0x51, "char_on"), (0x52, "char_pri"), (0x53, "char_animation"), (0x54, "char_sort"), (0x55, "char_swap"),
  (0x56, "char_shadow"), (0x57, "char_ret"), (0x59, "char_attack"), (0x5F, "get_background_c"),
  (0x60, "obj_ini"), (0x62, "obj_display"), (0x63, "obj_erase"), (0x70, "obj_no"), (0x71, "obj_on"),
  (0x72, "obj_pri"), (0x73, "obj_animation"), (0x74, "obj_sort"), (0x75, "obj_swap"), (0x80, "face_ini"),
  (0x82, "face_display"), (0x83, "face_erase"), (0x84, "face_pos"), (0x85, "face_auto_pis"), (0x88, "face_no"),
  (0x89, "face_on"), (0x8A, "face_pri"), (0x8B, "face_animation"), (0x8E, "face_shadow"), (0x8F, "face_ret"),
  (0x90, "bg_init"), (0x91, "bg_display"), (0x92, "bg_erase"), (0x93, "bg_flag"), (0x9B, "bg_on"),
  (0x9C, "bg_pri"), (0x9D, "bg_att"), (0x9E, "bg_bnk"), (0x9F, "bg_swap"), (0xA1, "effect_start"),
  (0xA2, "effect_par"), (0xA3, "effect_stop"), (0xB0, "event_ini"), (0xB1, "event_release"),
  (0xB2, "event_load"), (0xB3, "event_open"), (0xB4, "event_close"), (0xB5, "event_key_wait"),
  (0xC8, "sound_effect_play"), (0xC9, "sound_effect_start"), (0xCA, "sound_effect_stop"),
  (0xCB, "sound_effect_wait"), (0xCC, "sound_effect_vol"), (0xCE, "s_sound_effect_start"),
  (0xD0, "voice_over_play"), (0xD1, "voice_over_start"), (0xD2, "voice_over_stop"), (0xD3, "voice_over_wait"),
  (0xD4, "voice_over_sts"), (0xD8, "moive_play"), (0xD9, "movie_start"), (0xDA, "move_stop"),
  (0xDB, "move_wait"), (0xDC, "key_start"), (0xE0, "vibration_start"), (0xE1, "vibration_stop"),
  (0xE2, "screen_calen_start"), (0xE3, "screen_calen_end"), (0xE4, "RT"), (0xF0, "print"), (0xF1, "debug_set"),
  (0xF2, "debug_get"), (0xF3, "title_on"), (0xF4, "dict_set"), (0xF5, "dict_flag"), (0xF6, "message_flag"),
  (0xF7, "sel_flag"), (0xF8, "mes_log_save"), (0xF9, "set_back_col"), (0xFA, "set_name"),
  (0xFB, "Tlst_call_on"), (0xFC, "set_thum"), (0xFE, "eot"), (0xFF, "eos")]

/-- Jumps back while its condition holds; its first operand is the offset jumped to. -/
def loopCond : UInt8 := 0x06

/-- Ends a script. -/
def ret2 : UInt8 := 0x0D

/-- Shows a line of dialogue. -/
def message : UInt8 := 0x18

/-- Offers a list of choices. -/
def select : UInt8 := 0x1B

/-- Offers a choice out of a single string. -/
def select2 : UInt8 := 0x1D

/-- The name of the jump. -/
def loopCondName : Text := "Loop_Cond".toList

/-- The name of the instruction that does nothing. -/
def nopName : Text := "nop".toList

/-- The name of the instruction that ends a script. -/
def ret2Name : Text := "ret2".toList

def names : List (UInt8 × Text) := table.map fun (op, name) => (op, name.toList)

/-- Further spellings that are read but never written. -/
def aliases : List (Text × UInt8) := [("Rain_Effect".toList, 0xA1)]

def name? (op : UInt8) : Option Text := names.lookup op

def ofName? (name : Text) : Option UInt8 :=
  ((names.find? fun (_, n) => n = name).map Prod.fst).or (aliases.lookup name)

theorem ofName?_loopCondName : ofName? loopCondName = some loopCond := by decide

theorem ofName?_nopName : ofName? nopName = some 0 := by decide

theorem name?_ret2 : name? ret2 = some ret2Name := by decide

theorem mem_names_of_name? {op : UInt8} {name : Text} (h : name? op = some name) : (op, name) ∈ names := by
  obtain ⟨before, after, heq, -⟩ := List.lookup_eq_some_iff.mp h
  rw [heq]
  simp

private theorem find?_of_pairwise {named : List (UInt8 × Text)} (h : named.Pairwise fun p q => p.2 ≠ q.2)
    {p : UInt8 × Text} (hp : p ∈ named) : (named.find? fun q => q.2 = p.2) = some p := by
  induction named with
  | nil => cases hp
  | cons q more ih =>
    rw [List.pairwise_cons] at h
    rcases List.mem_cons.mp hp with rfl | hp
    · simp
    · simp [h.1 p hp, ih h.2 hp]

/-- No two opcodes have the same name. -/
private theorem pairwise_names : names.Pairwise fun p q => p.2 ≠ q.2 := by
  -- The names are compared by the numbers that their bytes make up, which is much faster than character by character.
  let number : String → Nat := fun name => name.toByteArray.data.toList.foldl (fun n b => n * 256 + b.toNat) 0
  have hnumbers : (table.map fun p => number p.2).Nodup := by decide +kernel
  refine List.pairwise_map.mpr ((List.pairwise_map.mp hnumbers).imp fun hne heq => hne ?_)
  exact congrArg number (String.toList_inj.mp heq)

/-- The name an opcode is shown as is read back as that opcode. -/
theorem ofName?_of_name? {op : UInt8} {name : Text} (h : name? op = some name) : ofName? name = some op := by
  have hfind := find?_of_pairwise pairwise_names (mem_names_of_name? h)
  rw [ofName?, hfind]
  rfl

end SceneScript.Opcode
