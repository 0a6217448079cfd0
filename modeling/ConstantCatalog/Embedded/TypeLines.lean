/-!
Contract: the source of type declarations that the library brings along.

Owns: the lines of that source.

Does not own: how lines are joined or parsed.
-/

namespace ConstantCatalog

/-- The lines of the source of type declarations that is used where no file is given. -/
def embeddedTypeLines : List String :=
  [
    "-- SLua type definitions",
    "-- Generated from lsl-definitions; do not edit by hand.",
    "",
    "declare extern type uuid with",
    "  istruekey: boolean",
    "  bytes: string?",
    "end",
    "",
    "declare extern type quaternion with",
    "  x: number",
    "  y: number",
    "  z: number",
    "  s: number",
    "end",
    "",
    "declare function touuid(val: string | buffer | uuid): uuid?",
    "declare function tovector(val: string | vector): vector?",
    "declare function toquaternion(val: string | quaternion): quaternion?",
    "",
    "declare ll: \x7b",
    "  Abs: (value: number) -> number,",
    "\x7d",
    "",
    "declare ACTIVE: number",
    "declare AGENT: number",
    "declare AGENT_ALWAYS_RUN: number",
    "declare AGENT_ATTACHMENTS: number",
    "declare AGENT_AWAY: number",
    "declare AGENT_BUSY: number",
    "declare AGENT_BY_LEGACY_NAME: number",
    "declare AGENT_BY_USERNAME: number",
    "declare AGENT_CROUCHING: number",
    "declare AGENT_FLYING: number",
    "declare AGENT_IN_AIR: number",
    "declare AGENT_MOUSELOOK: number",
    "declare AGENT_ON_OBJECT: number",
    "declare AGENT_SCRIPTED: number",
    "declare AGENT_SITTING: number",
    "declare AGENT_TYPING: number",
    "declare AGENT_WALKING: number",
    "declare ALL_SIDES: number",
    "declare ATTACH_CHEST: number",
    "declare ATTACH_HEAD: number",
    "declare ATTACH_LHAND: number",
    "declare ATTACH_LSHOULDER: number",
    "declare ATTACH_RHAND: number",
    "declare ATTACH_RSHOULDER: number",
    "declare CHANGED_ALLOWED_DROP: number",
    "declare CHANGED_COLOR: number",
    "declare CHANGED_INVENTORY: number",
    "declare CHANGED_LINK: number",
    "declare CHANGED_MEDIA: number",
    "declare CHANGED_OWNER: number",
    "declare CHANGED_REGION: number",
    "declare CHANGED_REGION_START: number",
    "declare CHANGED_SCALE: number",
    "declare CHANGED_SHAPE: number",
    "declare CHANGED_TELEPORT: number",
    "declare CHANGED_TEXTURE: number",
    "declare CLICK_ACTION_BUY: number",
    "declare CLICK_ACTION_NONE: number",
    "declare CLICK_ACTION_OPEN: number",
    "declare CLICK_ACTION_OPEN_MEDIA: number",
    "declare CLICK_ACTION_PAY: number",
    "declare CLICK_ACTION_PLAY: number",
    "declare CLICK_ACTION_SIT: number",
    "declare CLICK_ACTION_TOUCH: number",
    "declare CLICK_ACTION_ZOOM: number",
    "declare CONTROL_BACK: number",
    "declare CONTROL_DOWN: number",
    "declare CONTROL_FWD: number",
    "declare CONTROL_LBUTTON: number",
    "declare CONTROL_LEFT: number",
    "declare CONTROL_ML_LBUTTON: number",
    "declare CONTROL_RIGHT: number",
    "declare CONTROL_ROT_LEFT: number",
    "declare CONTROL_ROT_RIGHT: number",
    "declare CONTROL_UP: number",
    "declare DEBUG_CHANNEL: number",
    "declare DEG_TO_RAD: number",
    "declare EOF: string",
    "declare HTTP_BODY_MAXLENGTH: number",
    "declare HTTP_METHOD: number",
    "declare HTTP_MIMETYPE: number",
    "declare HTTP_VERIFY_CERT: number",
    "declare IMG_USE_BAKED_EYES: uuid",
    "declare IMG_USE_BAKED_HAIR: uuid",
    "declare IMG_USE_BAKED_HEAD: uuid",
    "declare IMG_USE_BAKED_LOWER: uuid",
    "declare IMG_USE_BAKED_SKIRT: uuid",
    "declare IMG_USE_BAKED_UPPER: uuid",
    "declare INVENTORY_ALL: number",
    "declare INVENTORY_ANIMATION: number",
    "declare INVENTORY_BODYPART: number",
    "declare INVENTORY_CLOTHING: number",
    "declare INVENTORY_GESTURE: number",
    "declare INVENTORY_LANDMARK: number",
    "declare INVENTORY_NONE: number",
    "declare INVENTORY_NOTECARD: number",
    "declare INVENTORY_OBJECT: number",
    "declare INVENTORY_SCRIPT: number",
    "declare INVENTORY_SOUND: number",
    "declare INVENTORY_TEXTURE: number",
    "declare JSON_APPEND: number",
    "declare JSON_ARRAY: string",
    "declare JSON_DELETE: string",
    "declare JSON_FALSE: string",
    "declare JSON_INVALID: string",
    "declare JSON_NULL: string",
    "declare JSON_NUMBER: string",
    "declare JSON_OBJECT: string",
    "declare JSON_STRING: string",
    "declare JSON_TRUE: string",
    "declare LINK_ALL_CHILDREN: number",
    "declare LINK_ALL_OTHERS: number",
    "declare LINK_ROOT: number",
    "declare LINK_SET: number",
    "declare LINK_THIS: number",
    "declare LIST_STAT_GEOMETRIC_MEAN: number",
    "declare LIST_STAT_MAX: number",
    "declare LIST_STAT_MEAN: number",
    "declare LIST_STAT_MEDIAN: number",
    "declare LIST_STAT_MIN: number",
    "declare LIST_STAT_NUM_COUNT: number",
    "declare LIST_STAT_RANGE: number",
    "declare LIST_STAT_STD_DEV: number",
    "declare LIST_STAT_SUM: number",
    "declare LIST_STAT_SUM_SQUARES: number",
    "declare MASK_BASE: number",
    "declare MASK_EVERYONE: number",
    "declare MASK_GROUP: number",
    "declare MASK_NEXT: number",
    "declare MASK_OWNER: number",
    "declare NPC: number",
    "declare NULL_KEY: uuid",
    "declare OBJECT_CREATOR: number",
    "declare OBJECT_DESC: number",
    "declare OBJECT_GROUP: number",
    "declare OBJECT_NAME: number",
    "declare OBJECT_OWNER: number",
    "declare OBJECT_POS: number",
    "declare OBJECT_ROT: number",
    "declare OBJECT_VELOCITY: number",
    "declare PARCEL_MEDIA_COMMAND_LOOP: number",
    "declare PARCEL_MEDIA_COMMAND_PAUSE: number",
    "declare PARCEL_MEDIA_COMMAND_PLAY: number",
    "declare PARCEL_MEDIA_COMMAND_STOP: number",
    "declare PARCEL_MEDIA_COMMAND_TEXTURE: number",
    "declare PARCEL_MEDIA_COMMAND_URL: number",
    "declare PASSIVE: number",
    "declare PAYMENT_INFO_ON_FILE: number",
    "declare PAYMENT_INFO_USED: number",
    "declare PERMISSION_ATTACH: number",
    "declare PERMISSION_CHANGE_LINKS: number",
    "declare PERMISSION_CONTROL_CAMERA: number",
    "declare PERMISSION_DEBIT: number",
    "declare PERMISSION_OVERRIDE_ANIMATIONS: number",
    "declare PERMISSION_RETURN_OBJECTS: number",
    "declare PERMISSION_TAKE_CONTROLS: number",
    "declare PERMISSION_TELEPORT: number",
    "declare PERMISSION_TRACK_CAMERA: number",
    "declare PERMISSION_TRIGGER_ANIMATION: number",
    "declare PERM_ALL: number",
    "declare PERM_COPY: number",
    "declare PERM_MODIFY: number",
    "declare PERM_MOVE: number",
    "declare PERM_TRANSFER: number",
    "declare PI: number",
    "declare PI_BY_TWO: number",
    "declare PRIM_BUMP_SHINY: number",
    "declare PRIM_COLOR: number",
    "declare PRIM_DESC: number",
    "declare PRIM_FLEXIBLE: number",
    "declare PRIM_FULLBRIGHT: number",
    "declare PRIM_GLOW: number",
    "declare PRIM_LINK_TARGET: number",
    "declare PRIM_MATERIAL: number",
    "declare PRIM_NAME: number",
    "declare PRIM_OMEGA: number",
    "declare PRIM_PHANTOM: number",
    "declare PRIM_PHYSICS: number",
    "declare PRIM_POINT_LIGHT: number",
    "declare PRIM_POSITION: number",
    "declare PRIM_POS_LOCAL: number",
    "declare PRIM_ROTATION: number",
    "declare PRIM_ROT_LOCAL: number",
    "declare PRIM_SIZE: number",
    "declare PRIM_TEMP_ON_REZ: number",
    "declare PRIM_TEXGEN: number",
    "declare PRIM_TEXT: number",
    "declare PRIM_TEXTURE: number",
    "declare PRIM_TYPE: number",
    "declare PUBLIC_CHANNEL: number",
    "declare RAD_TO_DEG: number",
    "declare SCRIPTED: number",
    "declare SQRT2: number",
    "declare STATUS_BLOCK_GRAB: number",
    "declare STATUS_CAST_SHADOWS: number",
    "declare STATUS_DIE_AT_EDGE: number",
    "declare STATUS_PHANTOM: number",
    "declare STATUS_PHYSICS: number",
    "declare STATUS_RETURN_AT_EDGE: number",
    "declare STATUS_ROTATE_X: number",
    "declare STATUS_ROTATE_Y: number",
    "declare STATUS_ROTATE_Z: number",
    "declare STATUS_SANDBOX: number",
    "declare STRING_TRIM: number",
    "declare STRING_TRIM_HEAD: number",
    "declare STRING_TRIM_TAIL: number",
    "declare TEXTURE_BLANK: uuid",
    "declare TEXTURE_DEFAULT: uuid",
    "declare TEXTURE_MEDIA: uuid",
    "declare TEXTURE_PLYWOOD: uuid",
    "declare TEXTURE_TRANSPARENT: uuid",
    "declare TWO_PI: number",
    "declare TYPE_FLOAT: number",
    "declare TYPE_INTEGER: number",
    "declare TYPE_INVALID: number",
    "declare TYPE_KEY: number",
    "declare TYPE_ROTATION: number",
    "declare TYPE_STRING: number",
    "declare TYPE_VECTOR: number",
    "declare URL_REQUEST_DENIED: string",
    "declare URL_REQUEST_GRANTED: string",
    "declare ZERO_ROTATION: quaternion",
    "declare ZERO_VECTOR: vector",
    "",
    "declare TRUE: boolean",
    "declare FALSE: boolean"
  ]

end ConstantCatalog
