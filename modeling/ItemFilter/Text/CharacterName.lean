/-
This file finds characters by their standard names. Only names without a blank are known.
-/

import ItemFilter.Text.Numeral

namespace ItemFilter.Text

/-- The names of marks, signs and scripts' characters. -/
def signNames : List (String × Nat) :=
  [("SPACE", 0x20), ("AMPERSAND", 0x26), ("APOSTROPHE", 0x27), ("ASTERISK", 0x2A), ("COMMA", 0x2C),
   ("HYPHEN-MINUS", 0x2D), ("SOLIDUS", 0x2F), ("COLON", 0x3A), ("SEMICOLON", 0x3B), ("TILDE", 0x7E),
   ("DIAERESIS", 0xA8), ("MACRON", 0xAF), ("CEDILLA", 0xB8), ("CARON", 0x2C7), ("BREVE", 0x2D8),
   ("OGONEK", 0x2DB), ("HYPHEN", 0x2010), ("DAGGER", 0x2020), ("BULLET", 0x2022), ("PRIME", 0x2032),
   ("CARET", 0x2038), ("INTERROBANG", 0x203D), ("OVERLINE", 0x203E), ("UNDERTIE", 0x203F),
   ("ASTERISM", 0x2042), ("TRICOLON", 0x205D), ("SCRUPLE", 0x2108), ("RESPONSE", 0x211F),
   ("VERSICLE", 0x2123), ("AKTIESELSKAB", 0x214D), ("COMPLEMENT", 0x2201), ("INCREMENT", 0x2206),
   ("NABLA", 0x2207), ("INFINITY", 0x221E), ("ANGLE", 0x2220), ("DIVIDES", 0x2223),
   ("INTERSECTION", 0x2229), ("UNION", 0x222A), ("INTEGRAL", 0x222B), ("THEREFORE", 0x2234),
   ("BECAUSE", 0x2235), ("RATIO", 0x2236), ("PROPORTION", 0x2237), ("EXCESS", 0x2239),
   ("HOMOTHETIC", 0x223B), ("ESTIMATES", 0x2259), ("BETWEEN", 0x226C), ("PRECEDES", 0x227A),
   ("SUCCEEDS", 0x227B), ("MULTISET", 0x228C), ("ASSERTION", 0x22A6), ("MODELS", 0x22A7),
   ("TRUE", 0x22A8), ("FORCES", 0x22A9), ("MULTIMAP", 0x22B8), ("INTERCALATE", 0x22BA),
   ("XOR", 0x22BB), ("NAND", 0x22BC), ("NOR", 0x22BD), ("BOWTIE", 0x22C8), ("PITCHFORK", 0x22D4),
   ("HOUSE", 0x2302), ("PROJECTIVE", 0x2305), ("PERSPECTIVE", 0x2306), ("ARC", 0x2312),
   ("SEGMENT", 0x2313), ("SECTOR", 0x2314), ("WATCH", 0x231A), ("HOURGLASS", 0x231B),
   ("FROWN", 0x2322), ("SMILE", 0x2323), ("KEYBOARD", 0x2328), ("CYLINDRICITY", 0x232D),
   ("SYMMETRY", 0x232F), ("SLOPE", 0x2333), ("COUNTERBORE", 0x2334), ("COUNTERSINK", 0x2335),
   ("FUSE", 0x23DB), ("STRAIGHTNESS", 0x23E4), ("FLATNESS", 0x23E5), ("STOPWATCH", 0x23F1),
   ("FISHEYE", 0x25C9), ("LOZENGE", 0x25CA), ("BULLSEYE", 0x25CE), ("CLOUD", 0x2601),
   ("UMBRELLA", 0x2602), ("SNOWMAN", 0x2603), ("COMET", 0x2604), ("LIGHTNING", 0x2607),
   ("THUNDERSTORM", 0x2608), ("SUN", 0x2609), ("CONJUNCTION", 0x260C), ("OPPOSITION", 0x260D),
   ("SALTIRE", 0x2613), ("SHAMROCK", 0x2618), ("CADUCEUS", 0x2624), ("ANKH", 0x2625),
   ("MERCURY", 0x263F), ("EARTH", 0x2641), ("JUPITER", 0x2643), ("SATURN", 0x2644),
   ("URANUS", 0x2645), ("NEPTUNE", 0x2646), ("PLUTO", 0x2647), ("ARIES", 0x2648),
   ("TAURUS", 0x2649), ("GEMINI", 0x264A), ("CANCER", 0x264B), ("LEO", 0x264C), ("VIRGO", 0x264D),
   ("LIBRA", 0x264E), ("SCORPIUS", 0x264F), ("SAGITTARIUS", 0x2650), ("CAPRICORN", 0x2651),
   ("AQUARIUS", 0x2652), ("PISCES", 0x2653), ("ANCHOR", 0x2693), ("SCALES", 0x2696),
   ("ALEMBIC", 0x2697), ("FLOWER", 0x2698), ("GEAR", 0x2699), ("FLEUR-DE-LIS", 0x269C),
   ("COFFIN", 0x26B0), ("NEUTER", 0x26B2), ("CERES", 0x26B3), ("PALLAS", 0x26B4), ("JUNO", 0x26B5),
   ("VESTA", 0x26B6), ("CHIRON", 0x26B7), ("SEXTILE", 0x26B9), ("SEMISEXTILE", 0x26BA),
   ("QUINCUNX", 0x26BB), ("SESQUIQUADRATE", 0x26BC), ("BASEBALL", 0x26BE), ("RAIN", 0x26C6),
   ("OPHIUCHUS", 0x26CE), ("PICK", 0x26CF), ("CHAINS", 0x26D3), ("PENTAGRAM", 0x26E4),
   ("CHURCH", 0x26EA), ("CASTLE", 0x26EB), ("MOUNTAIN", 0x26F0), ("FOUNTAIN", 0x26F2),
   ("FERRY", 0x26F4), ("SAILBOAT", 0x26F5), ("SKIER", 0x26F7), ("TENT", 0x26FA),
   ("AIRPLANE", 0x2708), ("ENVELOPE", 0x2709), ("PENCIL", 0x270F), ("SPARKLES", 0x2728),
   ("SNOWFLAKE", 0x2744), ("SPARKLE", 0x2747), ("PERPENDICULAR", 0x27C2), ("THERMODYNAMIC", 0x29E7),
   ("RULE-DELAYED", 0x29F4), ("TINY", 0x29FE), ("MINY", 0x29FF), ("JOIN", 0x2A1D),
   ("FORKING", 0x2ADC), ("NONFORKING", 0x2ADD), ("TRANSPLUTO", 0x2BD7), ("PROSERPINA", 0x2BD8),
   ("ASTRAEA", 0x2BD9), ("HYGIEA", 0x2BDA), ("PHOLUS", 0x2BDB), ("NESSUS", 0x2BDC),
   ("CUPIDO", 0x2BE0), ("HADES", 0x2BE1), ("ZEUS", 0x2BE2), ("KRONOS", 0x2BE3), ("APOLLON", 0x2BE4),
   ("ADMETOS", 0x2BE5), ("VULCANUS", 0x2BE6), ("POSEIDON", 0x2BE7), ("SEDNA", 0x2BF2),
   ("PARAGRAPHOS", 0x2E0F), ("HYPODIASTOLE", 0x2E12), ("CAPITULUM", 0x2E3F)]

/-- The names of pictures. -/
def pictureNames : List (String × Nat) :=
  [("CYCLONE", 0x1F300), ("FOGGY", 0x1F301), ("SUNRISE", 0x1F305), ("RAINBOW", 0x1F308),
   ("VOLCANO", 0x1F30B), ("THERMOMETER", 0x1F321), ("FOG", 0x1F32B), ("TACO", 0x1F32E),
   ("BURRITO", 0x1F32F), ("CHESTNUT", 0x1F330), ("SEEDLING", 0x1F331), ("CACTUS", 0x1F335),
   ("TULIP", 0x1F337), ("ROSE", 0x1F339), ("HIBISCUS", 0x1F33A), ("SUNFLOWER", 0x1F33B),
   ("BLOSSOM", 0x1F33C), ("HERB", 0x1F33F), ("MUSHROOM", 0x1F344), ("TOMATO", 0x1F345),
   ("AUBERGINE", 0x1F346), ("GRAPES", 0x1F347), ("MELON", 0x1F348), ("WATERMELON", 0x1F349),
   ("TANGERINE", 0x1F34A), ("LEMON", 0x1F34B), ("BANANA", 0x1F34C), ("PINEAPPLE", 0x1F34D),
   ("PEAR", 0x1F350), ("PEACH", 0x1F351), ("CHERRIES", 0x1F352), ("STRAWBERRY", 0x1F353),
   ("HAMBURGER", 0x1F354), ("SPAGHETTI", 0x1F35D), ("BREAD", 0x1F35E), ("DANGO", 0x1F361),
   ("ODEN", 0x1F362), ("SUSHI", 0x1F363), ("DOUGHNUT", 0x1F369), ("COOKIE", 0x1F36A),
   ("CANDY", 0x1F36C), ("LOLLIPOP", 0x1F36D), ("CUSTARD", 0x1F36E), ("SHORTCAKE", 0x1F370),
   ("COOKING", 0x1F373), ("POPCORN", 0x1F37F), ("RIBBON", 0x1F380), ("JACK-O-LANTERN", 0x1F383),
   ("FIREWORKS", 0x1F386), ("BALLOON", 0x1F388), ("MICROPHONE", 0x1F3A4), ("CINEMA", 0x1F3A6),
   ("HEADPHONE", 0x1F3A7), ("TICKET", 0x1F3AB), ("BILLIARDS", 0x1F3B1), ("BOWLING", 0x1F3B3),
   ("SAXOPHONE", 0x1F3B7), ("GUITAR", 0x1F3B8), ("TRUMPET", 0x1F3BA), ("VIOLIN", 0x1F3BB),
   ("SNOWBOARDER", 0x1F3C2), ("RUNNER", 0x1F3C3), ("SURFER", 0x1F3C4), ("TROPHY", 0x1F3C6),
   ("SWIMMER", 0x1F3CA), ("GOLFER", 0x1F3CC), ("VOLLEYBALL", 0x1F3D0), ("CAMPING", 0x1F3D5),
   ("CITYSCAPE", 0x1F3D9), ("DESERT", 0x1F3DC), ("STADIUM", 0x1F3DF), ("HOSPITAL", 0x1F3E5),
   ("BANK", 0x1F3E6), ("HOTEL", 0x1F3E8), ("SCHOOL", 0x1F3EB), ("FACTORY", 0x1F3ED),
   ("ROSETTE", 0x1F3F5), ("LABEL", 0x1F3F7), ("AMPHORA", 0x1F3FA), ("RAT", 0x1F400),
   ("MOUSE", 0x1F401), ("OX", 0x1F402), ("COW", 0x1F404), ("TIGER", 0x1F405), ("LEOPARD", 0x1F406),
   ("RABBIT", 0x1F407), ("CAT", 0x1F408), ("DRAGON", 0x1F409), ("CROCODILE", 0x1F40A),
   ("WHALE", 0x1F40B), ("SNAIL", 0x1F40C), ("SNAKE", 0x1F40D), ("HORSE", 0x1F40E), ("RAM", 0x1F40F),
   ("GOAT", 0x1F410), ("SHEEP", 0x1F411), ("MONKEY", 0x1F412), ("ROOSTER", 0x1F413),
   ("CHICKEN", 0x1F414), ("DOG", 0x1F415), ("PIG", 0x1F416), ("BOAR", 0x1F417),
   ("ELEPHANT", 0x1F418), ("OCTOPUS", 0x1F419), ("BUG", 0x1F41B), ("ANT", 0x1F41C),
   ("HONEYBEE", 0x1F41D), ("FISH", 0x1F41F), ("BLOWFISH", 0x1F421), ("TURTLE", 0x1F422),
   ("BIRD", 0x1F426), ("PENGUIN", 0x1F427), ("KOALA", 0x1F428), ("POODLE", 0x1F429),
   ("DOLPHIN", 0x1F42C), ("CHIPMUNK", 0x1F43F), ("EYES", 0x1F440), ("EYE", 0x1F441),
   ("EAR", 0x1F442), ("NOSE", 0x1F443), ("MOUTH", 0x1F444), ("TONGUE", 0x1F445), ("CROWN", 0x1F451),
   ("EYEGLASSES", 0x1F453), ("NECKTIE", 0x1F454), ("T-SHIRT", 0x1F455), ("JEANS", 0x1F456),
   ("DRESS", 0x1F457), ("KIMONO", 0x1F458), ("BIKINI", 0x1F459), ("PURSE", 0x1F45B),
   ("HANDBAG", 0x1F45C), ("POUCH", 0x1F45D), ("FOOTPRINTS", 0x1F463), ("BOY", 0x1F466),
   ("GIRL", 0x1F467), ("MAN", 0x1F468), ("WOMAN", 0x1F469), ("FAMILY", 0x1F46A), ("BABY", 0x1F476),
   ("PRINCESS", 0x1F478), ("GHOST", 0x1F47B), ("IMP", 0x1F47F), ("SKULL", 0x1F480),
   ("GUARDSMAN", 0x1F482), ("DANCER", 0x1F483), ("LIPSTICK", 0x1F484), ("HAIRCUT", 0x1F487),
   ("SYRINGE", 0x1F489), ("PILL", 0x1F48A), ("RING", 0x1F48D), ("KISS", 0x1F48F),
   ("BOUQUET", 0x1F490), ("WEDDING", 0x1F492), ("BOMB", 0x1F4A3), ("DROPLET", 0x1F4A7),
   ("SEAT", 0x1F4BA), ("BRIEFCASE", 0x1F4BC), ("MINIDISC", 0x1F4BD), ("DVD", 0x1F4C0),
   ("CALENDAR", 0x1F4C5), ("CLIPBOARD", 0x1F4CB), ("PUSHPIN", 0x1F4CC), ("PAPERCLIP", 0x1F4CE),
   ("LEDGER", 0x1F4D2), ("NOTEBOOK", 0x1F4D3), ("BOOKS", 0x1F4DA), ("SCROLL", 0x1F4DC),
   ("MEMO", 0x1F4DD), ("PAGER", 0x1F4DF), ("PACKAGE", 0x1F4E6), ("POSTBOX", 0x1F4EE),
   ("NEWSPAPER", 0x1F4F0), ("CAMERA", 0x1F4F7), ("TELEVISION", 0x1F4FA), ("RADIO", 0x1F4FB),
   ("VIDEOCASSETTE", 0x1F4FC), ("SPEAKER", 0x1F508), ("BATTERY", 0x1F50B), ("KEY", 0x1F511),
   ("LOCK", 0x1F512), ("BELL", 0x1F514), ("BOOKMARK", 0x1F516), ("FIRE", 0x1F525),
   ("WRENCH", 0x1F527), ("HAMMER", 0x1F528), ("HOCHO", 0x1F52A), ("PISTOL", 0x1F52B),
   ("MICROSCOPE", 0x1F52C), ("TELESCOPE", 0x1F52D), ("KAABA", 0x1F54B), ("MOSQUE", 0x1F54C),
   ("SYNAGOGUE", 0x1F54D), ("BULLHORN", 0x1F56B), ("BOOK", 0x1F56E), ("CANDLE", 0x1F56F),
   ("HOLE", 0x1F573), ("SPIDER", 0x1F577), ("JOYSTICK", 0x1F579), ("PRINTER", 0x1F5A8),
   ("TRACKBALL", 0x1F5B2), ("SCREEN", 0x1F5B5), ("FOLDER", 0x1F5C0), ("NOTE", 0x1F5C8),
   ("DOCUMENT", 0x1F5CE), ("PAGE", 0x1F5CF), ("PAGES", 0x1F5D0), ("WASTEBASKET", 0x1F5D1),
   ("MINIMIZE", 0x1F5D5), ("MAXIMIZE", 0x1F5D6), ("OVERLAP", 0x1F5D7), ("COMPRESSION", 0x1F5DC),
   ("LIPS", 0x1F5E2), ("MOYAI", 0x1F5FF), ("ROCKET", 0x1F680), ("HELICOPTER", 0x1F681),
   ("TRAIN", 0x1F686), ("METRO", 0x1F687), ("STATION", 0x1F689), ("TRAM", 0x1F68A),
   ("BUS", 0x1F68C), ("TROLLEYBUS", 0x1F68E), ("MINIBUS", 0x1F690), ("AMBULANCE", 0x1F691),
   ("TAXI", 0x1F695), ("AUTOMOBILE", 0x1F697), ("TRACTOR", 0x1F69C), ("MONORAIL", 0x1F69D),
   ("SHIP", 0x1F6A2), ("ROWBOAT", 0x1F6A3), ("SPEEDBOAT", 0x1F6A4), ("DOOR", 0x1F6AA),
   ("BICYCLE", 0x1F6B2), ("BICYCLIST", 0x1F6B4), ("PEDESTRIAN", 0x1F6B6), ("RESTROOM", 0x1F6BB),
   ("TOILET", 0x1F6BD), ("SHOWER", 0x1F6BF), ("BATH", 0x1F6C0), ("BATHTUB", 0x1F6C1),
   ("CUSTOMS", 0x1F6C3), ("BED", 0x1F6CF), ("STUPA", 0x1F6D3), ("PAGODA", 0x1F6D4),
   ("HUT", 0x1F6D6), ("ELEVATOR", 0x1F6D7), ("WHEEL", 0x1F6DE), ("SHIELD", 0x1F6E1),
   ("MOTORWAY", 0x1F6E3), ("SATELLITE", 0x1F6F0), ("SCOOTER", 0x1F6F4), ("CANOE", 0x1F6F6),
   ("SLED", 0x1F6F7), ("SKATEBOARD", 0x1F6F9), ("HANDSHAKE", 0x1F91D), ("BREAST-FEEDING", 0x1F931),
   ("SELFIE", 0x1F933), ("PRINCE", 0x1F934), ("SHRUG", 0x1F937), ("JUGGLING", 0x1F939),
   ("FENCER", 0x1F93A), ("WRESTLERS", 0x1F93C), ("HANDBALL", 0x1F93E), ("SPOON", 0x1F944),
   ("RIFLE", 0x1F946), ("SOFTBALL", 0x1F94E), ("CROISSANT", 0x1F950), ("AVOCADO", 0x1F951),
   ("CUCUMBER", 0x1F952), ("BACON", 0x1F953), ("POTATO", 0x1F954), ("CARROT", 0x1F955),
   ("EGG", 0x1F95A), ("PEANUTS", 0x1F95C), ("KIWIFRUIT", 0x1F95D), ("PANCAKES", 0x1F95E),
   ("DUMPLING", 0x1F95F), ("CHOPSTICKS", 0x1F962), ("COCONUT", 0x1F965), ("BROCCOLI", 0x1F966),
   ("PIE", 0x1F967), ("PRETZEL", 0x1F968), ("SANDWICH", 0x1F96A), ("MANGO", 0x1F96D),
   ("BAGEL", 0x1F96F), ("NINJA", 0x1F977), ("SARI", 0x1F97B), ("GOGGLES", 0x1F97D),
   ("CRAB", 0x1F980), ("SCORPION", 0x1F982), ("TURKEY", 0x1F983), ("EAGLE", 0x1F985),
   ("DUCK", 0x1F986), ("BAT", 0x1F987), ("SHARK", 0x1F988), ("OWL", 0x1F989),
   ("BUTTERFLY", 0x1F98B), ("DEER", 0x1F98C), ("GORILLA", 0x1F98D), ("LIZARD", 0x1F98E),
   ("RHINOCEROS", 0x1F98F), ("SHRIMP", 0x1F990), ("SQUID", 0x1F991), ("HEDGEHOG", 0x1F994),
   ("SAUROPOD", 0x1F995), ("T-REX", 0x1F996), ("CRICKET", 0x1F997), ("KANGAROO", 0x1F998),
   ("LLAMA", 0x1F999), ("PEACOCK", 0x1F99A), ("HIPPOPOTAMUS", 0x1F99B), ("PARROT", 0x1F99C),
   ("RACCOON", 0x1F99D), ("LOBSTER", 0x1F99E), ("MOSQUITO", 0x1F99F), ("MICROBE", 0x1F9A0),
   ("BADGER", 0x1F9A1), ("SWAN", 0x1F9A2), ("MAMMOTH", 0x1F9A3), ("DODO", 0x1F9A4),
   ("SLOTH", 0x1F9A5), ("OTTER", 0x1F9A6), ("ORANGUTAN", 0x1F9A7), ("SKUNK", 0x1F9A8),
   ("FLAMINGO", 0x1F9A9), ("OYSTER", 0x1F9AA), ("BEAVER", 0x1F9AB), ("BISON", 0x1F9AC),
   ("SEAL", 0x1F9AD), ("BONE", 0x1F9B4), ("LEG", 0x1F9B5), ("FOOT", 0x1F9B6), ("TOOTH", 0x1F9B7),
   ("SUPERHERO", 0x1F9B8), ("SUPERVILLAIN", 0x1F9B9), ("CUPCAKE", 0x1F9C1), ("GARLIC", 0x1F9C4),
   ("ONION", 0x1F9C5), ("FALAFEL", 0x1F9C6), ("WAFFLE", 0x1F9C7), ("BUTTER", 0x1F9C8),
   ("TROLL", 0x1F9CC), ("ADULT", 0x1F9D1), ("CHILD", 0x1F9D2), ("MAGE", 0x1F9D9),
   ("FAIRY", 0x1F9DA), ("VAMPIRE", 0x1F9DB), ("MERPERSON", 0x1F9DC), ("ELF", 0x1F9DD),
   ("GENIE", 0x1F9DE), ("ZOMBIE", 0x1F9DF), ("BRAIN", 0x1F9E0), ("SCARF", 0x1F9E3),
   ("GLOVES", 0x1F9E4), ("COAT", 0x1F9E5), ("SOCKS", 0x1F9E6), ("FIRECRACKER", 0x1F9E8),
   ("COMPASS", 0x1F9ED), ("ABACUS", 0x1F9EE), ("TOOLBOX", 0x1F9F0), ("BRICK", 0x1F9F1),
   ("MAGNET", 0x1F9F2), ("LUGGAGE", 0x1F9F3), ("BROOM", 0x1F9F9), ("BASKET", 0x1F9FA),
   ("SPONGE", 0x1F9FD), ("RECEIPT", 0x1F9FE), ("BRIEFS", 0x1FA72), ("SHORTS", 0x1FA73),
   ("STETHOSCOPE", 0x1FA7A), ("X-RAY", 0x1FA7B), ("CRUTCH", 0x1FA7C), ("YO-YO", 0x1FA80),
   ("KITE", 0x1FA81), ("PARACHUTE", 0x1FA82), ("BOOMERANG", 0x1FA83), ("PINATA", 0x1FA85),
   ("CHAIR", 0x1FA91), ("RAZOR", 0x1FA92), ("AXE", 0x1FA93), ("BANJO", 0x1FA95),
   ("ACCORDION", 0x1FA97), ("COIN", 0x1FA99), ("SCREWDRIVER", 0x1FA9B), ("LADDER", 0x1FA9C),
   ("HOOK", 0x1FA9D), ("MIRROR", 0x1FA9E), ("WINDOW", 0x1FA9F), ("PLUNGER", 0x1FAA0),
   ("KNOT", 0x1FAA2), ("BUCKET", 0x1FAA3), ("TOOTHBRUSH", 0x1FAA5), ("HEADSTONE", 0x1FAA6),
   ("PLACARD", 0x1FAA7), ("ROCK", 0x1FAA8), ("HAMSA", 0x1FAAC), ("FLY", 0x1FAB0), ("WORM", 0x1FAB1),
   ("BEETLE", 0x1FAB2), ("COCKROACH", 0x1FAB3), ("WOOD", 0x1FAB5), ("FEATHER", 0x1FAB6),
   ("LOTUS", 0x1FAB7), ("CORAL", 0x1FAB8), ("LUNGS", 0x1FAC1), ("BLUEBERRIES", 0x1FAD0),
   ("OLIVE", 0x1FAD2), ("FLATBREAD", 0x1FAD3), ("TAMALE", 0x1FAD4), ("FONDUE", 0x1FAD5),
   ("TEAPOT", 0x1FAD6), ("BEANS", 0x1FAD8), ("JAR", 0x1FAD9), ("BUBBLES", 0x1FAE7)]

/-- The short names of characters that are not printed, and their further names. -/
def controlNames : List (String × Nat) :=
  [("NUL", 0x0), ("NULL", 0x0), ("SOH", 0x1), ("STX", 0x2), ("ETX", 0x3), ("EOT", 0x4),
   ("ENQ", 0x5), ("ENQUIRY", 0x5), ("ACK", 0x6), ("ACKNOWLEDGE", 0x6), ("ALERT", 0x7), ("BEL", 0x7),
   ("BACKSPACE", 0x8), ("BS", 0x8), ("HT", 0x9), ("TAB", 0x9), ("EOL", 0xA), ("LF", 0xA),
   ("NL", 0xA), ("VT", 0xB), ("FF", 0xC), ("CR", 0xD), ("SO", 0xE), ("SI", 0xF), ("DLE", 0x10),
   ("DC1", 0x11), ("DC2", 0x12), ("DC3", 0x13), ("DC4", 0x14), ("NAK", 0x15), ("SYN", 0x16),
   ("ETB", 0x17), ("CAN", 0x18), ("CANCEL", 0x18), ("EOM", 0x19), ("SUB", 0x1A),
   ("SUBSTITUTE", 0x1A), ("ESC", 0x1B), ("ESCAPE", 0x1B), ("FS", 0x1C), ("GS", 0x1D), ("RS", 0x1E),
   ("US", 0x1F), ("SP", 0x20), ("DEL", 0x7F), ("DELETE", 0x7F), ("PAD", 0x80), ("HOP", 0x81),
   ("BPH", 0x82), ("NBH", 0x83), ("IND", 0x84), ("INDEX", 0x84), ("NEL", 0x85), ("SSA", 0x86),
   ("ESA", 0x87), ("HTS", 0x88), ("HTJ", 0x89), ("VTS", 0x8A), ("PLD", 0x8B), ("PLU", 0x8C),
   ("RI", 0x8D), ("SS2", 0x8E), ("SS3", 0x8F), ("DCS", 0x90), ("PU1", 0x91), ("PU2", 0x92),
   ("STS", 0x93), ("CCH", 0x94), ("MW", 0x95), ("SPA", 0x96), ("EPA", 0x97), ("SOS", 0x98),
   ("SGC", 0x99), ("SCI", 0x9A), ("CSI", 0x9B), ("ST", 0x9C), ("OSC", 0x9D), ("PM", 0x9E),
   ("APC", 0x9F), ("NBSP", 0xA0), ("SHY", 0xAD), ("CGJ", 0x34F), ("ALM", 0x61C), ("FVS1", 0x180B),
   ("FVS2", 0x180C), ("FVS3", 0x180D), ("MVS", 0x180E), ("FVS4", 0x180F), ("ZWSP", 0x200B),
   ("ZWNJ", 0x200C), ("ZWJ", 0x200D), ("LRM", 0x200E), ("RLM", 0x200F), ("LRE", 0x202A),
   ("RLE", 0x202B), ("PDF", 0x202C), ("LRO", 0x202D), ("RLO", 0x202E), ("NNBSP", 0x202F),
   ("MMSP", 0x205F), ("WJ", 0x2060), ("LRI", 0x2066), ("RLI", 0x2067), ("FSI", 0x2068),
   ("PDI", 0x2069), ("BOM", 0xFEFF), ("ZWNBSP", 0xFEFF)]

/-- The variation selectors are numbered from one in two runs. -/
def variationSelector? (number : Nat) : Option Nat :=
  if number = 0 then none
  else if number ≤ 16 then some (0xFE00 + (number - 1))
  else if number ≤ 256 then some (0xE0100 + (number - 17))
  else none

/-- The number of a variation selector is written without leading zeros. -/
def variationName? (name : Text) : Option Nat :=
  match name with
  | 'V' :: 'S' :: digits =>
      if isPlainNumeral digits && digits.length ≤ 3 && digits.head? != some '0' then
        variationSelector? (digitsValue digits)
      else none
  | _ => none

/-- Names are written with letters, digits and hyphens. -/
def isNameCharacter (character : Char) : Bool :=
  character.isUpper || isPlainDigit character || character == '-'

/-- The code point of the character with the name, in which the case of letters does not count. -/
def namedCode? (name : Text) : Option Nat :=
  let upper := name.map Char.toUpper
  if upper.all isNameCharacter then
    match variationName? upper with
    | some code => some code
    | none => (signNames ++ pictureNames ++ controlNames).lookup (String.ofList upper)
  else none

/-- Names are written with letters of either case, digits, hyphens and blanks. -/
def isNameSign (character : Char) : Bool :=
  isNameCharacter character.toUpper || character == ' '

theorem isNameSign_of_namedCode? {name : Text} {code : Nat} (named : namedCode? name = some code) :
    name.all isNameSign = true := by
  unfold namedCode? at named
  dsimp only at named
  split at named
  · next all =>
      rw [List.all_map, List.all_eq_true] at all
      refine List.all_eq_true.mpr fun character member => ?_
      have upper : isNameCharacter character.toUpper = true := all character member
      rw [isNameSign, upper, Bool.true_or]
  · cases named

end ItemFilter.Text
