import ClassDocs.Text.Lowercase

namespace ClassDocs

/-- The characters that fold to something else than their lower-case form, with the code points of
that. Most are variants of a letter, ligatures, and Greek letters with a mark below or beside them. -/
def foldings : List (Nat × List Nat) := [
  (181, [956]), (223, [115, 115]), (329, [700, 110]), (383, [115]), (496, [106, 780]),
  (837, [953]), (912, [953, 776, 769]), (944, [965, 776, 769]), (962, [963]), (976, [946]),
  (977, [952]), (981, [966]), (982, [960]), (1008, [954]), (1009, [961]), (1013, [949]),
  (1415, [1381, 1410]), (7296, [1074]), (7297, [1076]), (7298, [1086]), (7299, [1089]),
  (7300, [1090]), (7301, [1090]), (7302, [1098]), (7303, [1123]), (7304, [42571]),
  (7830, [104, 817]), (7831, [116, 776]), (7832, [119, 778]), (7833, [121, 778]),
  (7834, [97, 702]), (7835, [7777]), (7838, [115, 115]), (8016, [965, 787]),
  (8018, [965, 787, 768]), (8020, [965, 787, 769]), (8022, [965, 787, 834]), (8064, [7936, 953]),
  (8065, [7937, 953]), (8066, [7938, 953]), (8067, [7939, 953]), (8068, [7940, 953]),
  (8069, [7941, 953]), (8070, [7942, 953]), (8071, [7943, 953]), (8072, [7936, 953]),
  (8073, [7937, 953]), (8074, [7938, 953]), (8075, [7939, 953]), (8076, [7940, 953]),
  (8077, [7941, 953]), (8078, [7942, 953]), (8079, [7943, 953]), (8080, [7968, 953]),
  (8081, [7969, 953]), (8082, [7970, 953]), (8083, [7971, 953]), (8084, [7972, 953]),
  (8085, [7973, 953]), (8086, [7974, 953]), (8087, [7975, 953]), (8088, [7968, 953]),
  (8089, [7969, 953]), (8090, [7970, 953]), (8091, [7971, 953]), (8092, [7972, 953]),
  (8093, [7973, 953]), (8094, [7974, 953]), (8095, [7975, 953]), (8096, [8032, 953]),
  (8097, [8033, 953]), (8098, [8034, 953]), (8099, [8035, 953]), (8100, [8036, 953]),
  (8101, [8037, 953]), (8102, [8038, 953]), (8103, [8039, 953]), (8104, [8032, 953]),
  (8105, [8033, 953]), (8106, [8034, 953]), (8107, [8035, 953]), (8108, [8036, 953]),
  (8109, [8037, 953]), (8110, [8038, 953]), (8111, [8039, 953]), (8114, [8048, 953]),
  (8115, [945, 953]), (8116, [940, 953]), (8118, [945, 834]), (8119, [945, 834, 953]),
  (8124, [945, 953]), (8126, [953]), (8130, [8052, 953]), (8131, [951, 953]), (8132, [942, 953]),
  (8134, [951, 834]), (8135, [951, 834, 953]), (8140, [951, 953]), (8146, [953, 776, 768]),
  (8147, [953, 776, 769]), (8150, [953, 834]), (8151, [953, 776, 834]), (8162, [965, 776, 768]),
  (8163, [965, 776, 769]), (8164, [961, 787]), (8166, [965, 834]), (8167, [965, 776, 834]),
  (8178, [8060, 953]), (8179, [969, 953]), (8180, [974, 953]), (8182, [969, 834]),
  (8183, [969, 834, 953]), (8188, [969, 953]), (64256, [102, 102]), (64257, [102, 105]),
  (64258, [102, 108]), (64259, [102, 102, 105]), (64260, [102, 102, 108]), (64261, [115, 116]),
  (64262, [115, 116]), (64275, [1396, 1398]), (64276, [1396, 1381]), (64277, [1396, 1387]),
  (64278, [1406, 1398]), (64279, [1396, 1389])]

/-- The form of a character in which texts are compared when case does not matter. -/
def foldChar (c : Char) : List Char :=
  if c.toNat < 128 then [c.toLower]
  else match foldings.find? (·.1 == c.toNat) with
    | some entry => entry.2.map Char.ofNat
    | none => lowerChar c

/-- The form of a text in which texts are compared when case does not matter. -/
def foldCase (text : List Char) : List Char :=
  text.flatMap foldChar

end ClassDocs
