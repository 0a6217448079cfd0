/-!
Contract: the source of constants that the library brings along.

Owns: the lines of that source.

Does not own: how lines are joined or parsed.
-/

namespace ConstantCatalog

/-- The lines of the source of constants that is used where no file is given. -/
def embeddedConstantLines : List String :=
  [
    "// Generated by gen_definitions.py",
    "// LSL constant definitions: const <type> <NAME> = <value>",
    "",
    "const integer ACTIVE = 0x2",
    "const integer AGENT = 0x1",
    "const integer AGENT_ALWAYS_RUN = 0x1000",
    "const integer AGENT_ATTACHMENTS = 0x2",
    "const integer AGENT_AWAY = 0x40",
    "const integer AGENT_BUSY = 0x800",
    "const integer AGENT_BY_LEGACY_NAME = 0x1",
    "const integer AGENT_BY_USERNAME = 0x10",
    "const integer AGENT_CROUCHING = 0x400",
    "const integer AGENT_FLYING = 0x1",
    "const integer AGENT_IN_AIR = 0x100",
    "const integer AGENT_MOUSELOOK = 0x8",
    "const integer AGENT_ON_OBJECT = 0x20",
    "const integer AGENT_SCRIPTED = 0x4",
    "const integer AGENT_SITTING = 0x10",
    "const integer AGENT_TYPING = 0x200",
    "const integer AGENT_WALKING = 0x80",
    "const integer ALL_SIDES = -1",
    "const integer ATTACH_CHEST = 1",
    "const integer ATTACH_HEAD = 2",
    "const integer ATTACH_LHAND = 5",
    "const integer ATTACH_LSHOULDER = 3",
    "const integer ATTACH_RHAND = 6",
    "const integer ATTACH_RSHOULDER = 4",
    "const integer CHANGED_ALLOWED_DROP = 0x40",
    "const integer CHANGED_COLOR = 0x2",
    "const integer CHANGED_INVENTORY = 0x1",
    "const integer CHANGED_LINK = 0x20",
    "const integer CHANGED_MEDIA = 0x800",
    "const integer CHANGED_OWNER = 0x80",
    "const integer CHANGED_REGION = 0x100",
    "const integer CHANGED_REGION_START = 0x400",
    "const integer CHANGED_SCALE = 0x8",
    "const integer CHANGED_SHAPE = 0x4",
    "const integer CHANGED_TELEPORT = 0x200",
    "const integer CHANGED_TEXTURE = 0x10",
    "const integer CLICK_ACTION_BUY = 2",
    "const integer CLICK_ACTION_NONE = 0",
    "const integer CLICK_ACTION_OPEN = 4",
    "const integer CLICK_ACTION_OPEN_MEDIA = 6",
    "const integer CLICK_ACTION_PAY = 3",
    "const integer CLICK_ACTION_PLAY = 5",
    "const integer CLICK_ACTION_SIT = 1",
    "const integer CLICK_ACTION_TOUCH = 0",
    "const integer CLICK_ACTION_ZOOM = 7",
    "const integer CONTROL_BACK = 0x2",
    "const integer CONTROL_DOWN = 0x20",
    "const integer CONTROL_FWD = 0x1",
    "const integer CONTROL_LBUTTON = 0x10000000",
    "const integer CONTROL_LEFT = 0x4",
    "const integer CONTROL_ML_LBUTTON = 0x40000000",
    "const integer CONTROL_RIGHT = 0x8",
    "const integer CONTROL_ROT_LEFT = 0x100",
    "const integer CONTROL_ROT_RIGHT = 0x200",
    "const integer CONTROL_UP = 0x10",
    "const integer DEBUG_CHANNEL = 0x7FFFFFFF",
    "const float DEG_TO_RAD = 0.017453293",
    "const string EOF = \"\\n\\n\\n\"",
    "const integer FALSE = 0",
    "const integer HTTP_BODY_MAXLENGTH = 2",
    "const integer HTTP_METHOD = 0",
    "const integer HTTP_MIMETYPE = 1",
    "const integer HTTP_VERIFY_CERT = 3",
    "const key IMG_USE_BAKED_EYES = \"52cc6bb6-2ee5-e632-d3ad-50197b1dcb8a\"",
    "const key IMG_USE_BAKED_HAIR = \"09aac1fb-6bce-0bee-7d44-caac6dbb6c63\"",
    "const key IMG_USE_BAKED_HEAD = \"5a9f4a74-30f2-821c-b88d-70499d3e7183\"",
    "const key IMG_USE_BAKED_LOWER = \"24daea5f-0539-cfcf-047f-fbc40b2786ba\"",
    "const key IMG_USE_BAKED_SKIRT = \"43529ce8-7faa-ad92-165a-bc4078371687\"",
    "const key IMG_USE_BAKED_UPPER = \"ae2de45c-d252-50b8-5c6e-19f39ce79317\"",
    "const integer INVENTORY_ALL = -1",
    "const integer INVENTORY_ANIMATION = 20",
    "const integer INVENTORY_BODYPART = 13",
    "const integer INVENTORY_CLOTHING = 5",
    "const integer INVENTORY_GESTURE = 21",
    "const integer INVENTORY_LANDMARK = 3",
    "const integer INVENTORY_NONE = -1",
    "const integer INVENTORY_NOTECARD = 7",
    "const integer INVENTORY_OBJECT = 6",
    "const integer INVENTORY_SCRIPT = 10",
    "const integer INVENTORY_SOUND = 1",
    "const integer INVENTORY_TEXTURE = 0",
    "const integer JSON_APPEND = -1",
    "const string JSON_ARRAY = \"\ufdd2\"",
    "const string JSON_DELETE = \"\ufdd8\"",
    "const string JSON_FALSE = \"\ufdd7\"",
    "const string JSON_INVALID = \"\ufdd0\"",
    "const string JSON_NULL = \"\ufdd5\"",
    "const string JSON_NUMBER = \"\ufdd3\"",
    "const string JSON_OBJECT = \"\ufdd1\"",
    "const string JSON_STRING = \"\ufdd4\"",
    "const string JSON_TRUE = \"\ufdd6\"",
    "const integer LINK_ALL_CHILDREN = -3",
    "const integer LINK_ALL_OTHERS = -2",
    "const integer LINK_ROOT = 1",
    "const integer LINK_SET = -1",
    "const integer LINK_THIS = -4",
    "const integer LIST_STAT_GEOMETRIC_MEAN = 9",
    "const integer LIST_STAT_MAX = 2",
    "const integer LIST_STAT_MEAN = 3",
    "const integer LIST_STAT_MEDIAN = 4",
    "const integer LIST_STAT_MIN = 1",
    "const integer LIST_STAT_NUM_COUNT = 8",
    "const integer LIST_STAT_RANGE = 0",
    "const integer LIST_STAT_STD_DEV = 5",
    "const integer LIST_STAT_SUM = 6",
    "const integer LIST_STAT_SUM_SQUARES = 7",
    "const integer MASK_BASE = 0",
    "const integer MASK_EVERYONE = 3",
    "const integer MASK_GROUP = 2",
    "const integer MASK_NEXT = 4",
    "const integer MASK_OWNER = 1",
    "const integer NPC = 0x20",
    "const key NULL_KEY = \"00000000-0000-0000-0000-000000000000\"",
    "const integer OBJECT_CREATOR = 8",
    "const integer OBJECT_DESC = 2",
    "const integer OBJECT_GROUP = 7",
    "const integer OBJECT_NAME = 1",
    "const integer OBJECT_OWNER = 6",
    "const integer OBJECT_POS = 3",
    "const integer OBJECT_ROT = 4",
    "const integer OBJECT_VELOCITY = 5",
    "const integer PARCEL_MEDIA_COMMAND_LOOP = 3",
    "const integer PARCEL_MEDIA_COMMAND_PAUSE = 1",
    "const integer PARCEL_MEDIA_COMMAND_PLAY = 2",
    "const integer PARCEL_MEDIA_COMMAND_STOP = 0",
    "const integer PARCEL_MEDIA_COMMAND_TEXTURE = 4",
    "const integer PARCEL_MEDIA_COMMAND_URL = 5",
    "const integer PASSIVE = 0x4",
    "const integer PAYMENT_INFO_ON_FILE = 0x1",
    "const integer PAYMENT_INFO_USED = 0x2",
    "const integer PERMISSION_ATTACH = 0x20",
    "const integer PERMISSION_CHANGE_LINKS = 0x80",
    "const integer PERMISSION_CONTROL_CAMERA = 0x800",
    "const integer PERMISSION_DEBIT = 0x2",
    "const integer PERMISSION_OVERRIDE_ANIMATIONS = 0x8000",
    "const integer PERMISSION_RETURN_OBJECTS = 0x10000",
    "const integer PERMISSION_TAKE_CONTROLS = 0x4",
    "const integer PERMISSION_TELEPORT = 0x1000",
    "const integer PERMISSION_TRACK_CAMERA = 0x400",
    "const integer PERMISSION_TRIGGER_ANIMATION = 0x10",
    "const integer PERM_ALL = 0x7FFFFFFF",
    "const integer PERM_COPY = 0x8000",
    "const integer PERM_MODIFY = 0x4000",
    "const integer PERM_MOVE = 0x80000",
    "const integer PERM_TRANSFER = 0x2000",
    "const float PI = 3.14159265",
    "const float PI_BY_TWO = 1.57079633",
    "const integer PRIM_BUMP_SHINY = 19",
    "const integer PRIM_COLOR = 18",
    "const integer PRIM_DESC = 28",
    "const integer PRIM_FLEXIBLE = 21",
    "const integer PRIM_FULLBRIGHT = 20",
    "const integer PRIM_GLOW = 25",
    "const integer PRIM_LINK_TARGET = 34",
    "const integer PRIM_MATERIAL = 2",
    "const integer PRIM_NAME = 27",
    "const integer PRIM_OMEGA = 32",
    "const integer PRIM_PHANTOM = 5",
    "const integer PRIM_PHYSICS = 3",
    "const integer PRIM_POINT_LIGHT = 23",
    "const integer PRIM_POSITION = 6",
    "const integer PRIM_POS_LOCAL = 33",
    "const integer PRIM_ROTATION = 8",
    "const integer PRIM_ROT_LOCAL = 29",
    "const integer PRIM_SIZE = 7",
    "const integer PRIM_TEMP_ON_REZ = 4",
    "const integer PRIM_TEXGEN = 22",
    "const integer PRIM_TEXT = 26",
    "const integer PRIM_TEXTURE = 17",
    "const integer PRIM_TYPE = 9",
    "const integer PUBLIC_CHANNEL = 0",
    "const float RAD_TO_DEG = 57.29578",
    "const integer SCRIPTED = 0x8",
    "const float SQRT2 = 1.41421356",
    "const integer STATUS_BLOCK_GRAB = 0x40",
    "const integer STATUS_CAST_SHADOWS = 0x200",
    "const integer STATUS_DIE_AT_EDGE = 0x80",
    "const integer STATUS_PHANTOM = 0x10",
    "const integer STATUS_PHYSICS = 0x1",
    "const integer STATUS_RETURN_AT_EDGE = 0x100",
    "const integer STATUS_ROTATE_X = 0x2",
    "const integer STATUS_ROTATE_Y = 0x4",
    "const integer STATUS_ROTATE_Z = 0x8",
    "const integer STATUS_SANDBOX = 0x20",
    "const integer STRING_TRIM = 0x3",
    "const integer STRING_TRIM_HEAD = 0x1",
    "const integer STRING_TRIM_TAIL = 0x2",
    "const string TEXTURE_BLANK = \"5748decc-f629-461c-9a36-a35a221fe21f\"",
    "const string TEXTURE_DEFAULT = \"89556747-24cb-43ed-920b-47caed15465f\"",
    "const string TEXTURE_MEDIA = \"8b5fec65-8d8d-9dc5-cda8-8fdf2716e361\"",
    "const string TEXTURE_PLYWOOD = \"89556747-24cb-43ed-920b-47caed15465f\"",
    "const string TEXTURE_TRANSPARENT = \"8dcd4a48-2d37-4909-9f78-f7a9eb4ef903\"",
    "const integer TRUE = 1",
    "const float TWO_PI = 6.28318530",
    "const integer TYPE_FLOAT = 2",
    "const integer TYPE_INTEGER = 1",
    "const integer TYPE_INVALID = 0",
    "const integer TYPE_KEY = 4",
    "const integer TYPE_ROTATION = 6",
    "const integer TYPE_STRING = 3",
    "const integer TYPE_VECTOR = 5",
    "const string URL_REQUEST_DENIED = \"URL_REQUEST_DENIED\"",
    "const string URL_REQUEST_GRANTED = \"URL_REQUEST_GRANTED\"",
    "const rotation ZERO_ROTATION = <0.0, 0.0, 0.0, 1.0>",
    "const vector ZERO_VECTOR = <0.0, 0.0, 0.0>"
  ]

end ConstantCatalog
