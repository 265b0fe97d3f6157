import WikiArticle.Text.Property.Table

/-! Ages. The age of a code point is the version of the standard that first gave it a meaning. -/

namespace WikiArticle
namespace Property

/-- The versions of the standard, the first one first. -/
def versions : List String :=
  ["1.1", "2.0", "2.1", "3.0", "3.1", "3.2", "4.0", "4.1", "5.0", "5.1", "5.2", "6.0", "6.1", "6.2", "6.3",
    "7.0", "8.0", "9.0", "10.0", "11.0", "12.0", "12.1", "13.0", "14.0", "15.0", "15.1", "16.0", "17.0"]

/-- The versions in which the code points got a meaning, by letters in their order, first the upper-case and then
    the lower-case ones; a dash stands where there is none. -/
def ages : Table := .ofText "
  502A 4D 30A 8D 1F 1G 18D 3G 11H 14I 89A 5D 2G 47A 1D 10A 5D 17G 70A 9D 1F 8G 5H 3G 2A 1D 13F 4J 2A 2J 2-
  1A 3I 1A 1P 4- 7A 1- 1A 1- 20A 1- 44A 1J 7A 1D 2F 1A 1D 1A 1D 1A 1D 1A 1D 18A 2E 1F 5G 4H 1D 12A 1D 66A 1D
  12A 1D 41A 1J 2D 2F 4D 53A 2F 2A 2F 2A 2F 1I 28A 2D 8A 2H 2A 6I 16F 4I 16J 2K 2L 8P 1- 38A 2- 7A 1T 39A 1T
  1A 1D 2- 2P 1M 1- 17B 1H 13B 10A 1I 9A 1B 3H 8- 27A 4- 1T 5A 11- 4G 1M 1P 5J 1H 1A 9G 5J 1A 1O 1X 1H 1A 1L
  26A 5J 19A 3D 3G 6H 1L 14A 2F 72A 2D 5A 1D 15A 1D 30A 2G 10A 5D 1G 14D 1- 30D 3G 27D 2- 3G 30H 18J 49D 1F
  14- 59I 2- 3T 46K 2- 15K 1- 28L 2- 1L 1- 11S 5- 31X 1b 2X 5- 1a 8X 1M 1P 11M 6P 2Q 1X 8R 10W 11X 1T 15R 1Q
  27M 1P 1K 3A 1G 53A 2L 18A 1K 1L 5A 1K 2L 25A 2J 5L 1P 2K 2I 1H 2I 1P 3A 1- 8A 2- 2A 2- 22A 1- 7A 1- 1A 3-
  4A 2- 1A 1G 7A 2- 2A 2- 3A 1H 8- 1A 4- 2A 1- 5A 2- 21A 1K 2S 1T 2- 1G 1A 1G 1- 6A 4- 2A 2- 22A 1- 7A 1- 2A
  1- 2A 1- 2A 2- 1A 1- 5A 4- 2A 2- 3A 3- 1J 7- 4A 1- 1A 7- 15A 1J 1T 10- 3A 1- 7A 1G 1A 1- 3A 1- 22A 1- 7A
  1- 2A 1- 5A 2- 10A 1- 3A 1- 3A 2- 1A 15- 1A 3G 2- 10A 1M 1G 7- 1Q 6S 1- 3A 1- 8A 2- 2A 2- 22A 1- 7A 1- 2A
  1- 1G 4A 2- 8A 1J 2- 2A 2- 3A 7- 1W 2A 4- 2A 1- 3A 2J 2- 11A 1G 6L 10- 2A 1- 6A 3- 3A 1- 4A 3- 2A 1- 1A 1-
  2A 3- 2A 3- 3A 3- 8A 1H 3A 4- 5A 3- 3A 1- 4A 2- 1J 6- 1A 14- 1H 12A 8G 5- 1P 3A 1T 8A 1- 3A 1- 23A 1- 10A
  1P 5A 2- 1X 1J 7A 1- 3A 1- 4A 7- 2A 1- 2J 1Q 1- 1b 1X 2- 2A 2J 2- 10A 7- 1U 8J 1R 1P 2A 1T 8A 1- 3A 1- 23A
  1- 10A 1- 5A 2- 2G 7A 1- 3A 1- 4A 7- 2A 5- 1b 1X 1A 1- 2A 2I 2- 10A 1- 2I 1Y 12- 1S 1P 2A 1W 8A 1- 3A 1-
  23A 1L 16A 1L 2S 1J 6A 1J 1- 3A 1- 4A 1L 1R 4- 3R 1A 7R 1Q 2A 2J 2- 10A 6J 3R 7J 1- 1W 2D 1- 18D 3- 24D 1-
  9D 1- 1D 2- 7D 3- 1D 4- 6D 1- 1D 1- 8D 6- 10P 2- 3D 12- 58A 4- 29A 37- 2A 1- 1A 1- 1U 2A 1U 1A 1- 1U 1A 6U
  4A 1U 7A 1U 3A 1- 1A 1- 1A 2U 2A 1U 13A 1U 3A 2- 5A 1- 1A 1- 6A 1Y 1- 10A 2- 2A 2M 32- 72B 1- 33B 1D 2J 4-
  27B 4L 6B 1D 1B 1- 21B 3D 7B 1D 1B 3D 1- 15D 1- 1J 1D 2H 3J 4K 2L 37- 34D 1J 5D 1J 2D 1J 7D 3J 4D 6J 26D
  64J 4K 2J 38A 1- 1M 5- 1M 2- 39A 2F 2H 1A 1H 3M 90A 5K 68A 5K 82A 6K 7D 1H 63D 1H 1D 1- 4D 2- 7D 1- 1D 1-
  4D 2- 39D 1H 1D 1- 4D 2- 31D 1H 1D 1- 4D 2- 7D 1- 1D 1- 4D 2- 7D 1H 7D 1- 23D 1H 31D 1H 1D 1- 4D 2- 7D 1H
  39D 1H 19D 2- 2L 2H 28D 3- 26H 6- 85D 1Q 2- 6Q 2- 1K 630D 9K 29D 3- 81D 8P 7- 13F 1X 7F 1X 9- 1X 23F 9-
  20F 12- 13F 1- 3F 1- 2F 12- 93D 1G 2- 10D 6- 10G 6- 15D 1X 10D 6- 88D 1T 7- 42D 1J 5- 70K 10- 29G 2P 1-
  12G 4- 12G 4- 1G 3- 42G 2- 5G 11- 42H 2K 4- 26H 6- 10H 1K 3- 2H 32G 28H 2- 2H 63K 1- 29K 2- 11K 6- 10K 6-
  14K 2- 15P 2W 14X 15b 2- 12b 20- 76I 1X 1- 2a 45I 2X 1a 43J 3M 12J 6M 52L 8- 4L 56J 3- 15J 3- 51J 9R 2a 5-
  43T 2- 3T 8M 8- 35K 4M 1S 2P 1U 5- 108G 88H 7I 28J 15P 4S 1X 1R 1L 1K 2I 155A 1B 4J 90A 6J 22A 2- 6A 2-
  38A 2- 6A 2- 8A 1- 1A 1- 1A 1- 1A 1- 31A 2- 53A 1- 15A 1- 14A 2- 6A 1- 19A 2- 3A 1- 9A 1- 47A 1D 23A 1F 6D
  5F 2G 2H 1F 7H 5F 1J 1- 4O 7A 1F 2- 27A 1- 5H 8L 3- 11A 1B 1C 3D 2F 4H 3K 1L 1N 3P 1Q 1S 1X 1b 14- 18A 2D
  7F 1H 4I 1J 15- 57A 2D 1G 1H 15F 1H 2I 1J 3K 48A 1D 1I 4J 1K 2Q 4- 91A 9D 12F 242A 14F 1A 1D 121A 1D 1F
  30D 52F 2G 11H 12I 1K 11L 7P 4R 1S 37A 2D 3a 22- 11A 21- 139A 20F 1G 150A 10F 80A 8D 8F 20A 2G 2F 1H 1D
  86A 2D 12F 2H 10F 8G 11H 1J 2K 2G 16H 1I 10J 3K 4J 10K 1L 19K 1L 1K 4L 24K 1P 4A 1L 4A 2L 28A 1L 35A 1L 1A
  1L 4A 3L 1A 1K 7A 2L 7A 14F 31A 3L 24A 1L 14A 1L 7H 4I 1M 1J 1M 2L 28F 4J 16F 256D 512F 14G 6H 7I 5J 4I
  41J 3P 5J 5K 26P 2- 32P 1b 1W 34P 3T 12P 1U 8P 1S 25T 4Q 15T 1U 47H 1X 47H 1X 13I 3J 1K 3J 4I 6J 2K 107H
  7K 2M 5- 45H 1- 1M 5- 1M 2- 54H 2M 7- 1H 1L 14- 1L 23H 9- 7H 1- 7H 1- 7H 1- 7H 1- 7H 1- 7H 1- 7H 1- 7H 1-
  32J 24H 4J 2H 19J 1K 10M 7P 2R 5S 5T 1U 3W 11X 34- 26D 1- 89D 12- 214D 26- 12D 4Z 56A 3D 3F 1D 1A 1- 84A
  2F 2- 6A 2F 94A 1F 5- 40A 1J 1S 1T 1- 94A 1- 16A 24D 3L 5W 16H 20J 2a 9- 1Z 16F 29A 2G 1- 36A 12K 1G 15F
  28A 2G 1H 50A 15F 12A 4G 47A 1V 119A 4G 99A 2G 31A 1G 6582D 10W 64G 20902A 22H 8J 8K 1M 9Q 21S 5T 13W 3X
  1165D 3- 18D 2F 16D 1F 12D 1F 3D 1F 1D 9- 48K 300J 20- 32J 2L 18J 8M 28J 6P 1Q 1M 88K 8- 23H 4I 5J 2I 107J
  2L 1Q 2L 2M 12P 10L 1M 3P 1R 1T 2P 6Q 2T 6U 2X 5U 4W 3a 2b 2X 1b 1X 1b 5X 3a 20- 1b 3X 2W 1P 2M 1L 5J 44H
  1W 3- 10K 6- 56I 8- 69J 1R 8- 12J 6- 28K 2Q 2T 84J 11- 1J 29K 3- 78K 1- 11K 4- 2K 31P 1- 55J 9- 14J 2- 10J
  2- 4J 28K 4P 67K 24- 5K 23M 10- 6L 2- 6L 2- 6L 9- 7L 1- 7L 1- 48P 4Q 2P 2U 4W 4- 80Q 46K 2- 10K 6- 11172B
  12- 23K 4- 49K 4- 2048B 6702A 2M 59F 3K 2- 106H 38- 7A 12- 5A 5- 1D 25A 1- 5A 1- 1A 1- 2A 1- 2A 1- 108A
  16L 1X 16b 365A 16X 64A 2b 54A 7b 1X 32E 12A 1F 1G 2X 16F 10H 6- 4A 3J 7P 2Q 21A 2F 2G 10A 1- 19A 1- 4A 4-
  3A 1F 1A 1- 135A 2- 1A 1- 94A 2F 94A 3- 6A 2- 6A 2- 6A 2- 3A 3- 7A 1- 7A 10- 3D 1C 3A 12G 1- 26G 1- 19G 1-
  2G 1- 15G 2- 14G 34- 123G 5- 3G 4- 45G 3- 9G 75H 2P 2R 1- 12J 1W 3- 1P 47- 46J 130- 29J 3- 49J 15- 28P 4-
  31E 1P 4E 9- 3S 27E 5- 43P 5- 30G 1- 1G 36H 4- 14H 42- 38E 2G 38E 80G 2- 10G 6- 36R 4- 36R 4- 40P 8- 52P
  11- 1P 11X 1- 15X 1- 7X 1- 2X 1- 11X 1- 15X 1- 7X 1- 2X 3- 52a 12- 311P 9- 22P 10- 8P 24- 6X 1- 42X 1- 9X
  69- 6G 2- 1G 1- 44G 1- 2G 3- 1G 2- 1G 22K 1- 9K 63P 8- 9P 48- 19Q 1- 2Q 5- 5Q 26I 2K 3- 1I 26J 5- 1J 26b
  38- 56M 4- 2Q 2M 16Q 2- 46Q 4H 1- 2H 5- 8H 1- 3H 1- 27H 2T 2- 3H 4- 9H 1T 7- 9H 7- 32K 32P 32- 39P 4- 12P
  9- 54K 3- 29K 2- 27K 5- 8K 18P 7- 4P 12- 7P 80- 73K 55- 51Q 13- 51Q 7- 6Q 40T 8- 10T 6- 38a 3- 29a 8- 2a
  208- 31K 1- 42W 1- 3W 2- 2W 16- 3a 3b 8- 9b 33- 2b 1a 3Y 40T 8- 42T 22- 26X 38- 28W 20- 23U 9- 78L 4- 30L
  6X 9- 1P 66K 1X 10- 1T 2- 25M 7- 10M 6- 53M 1- 14M 3T 1W 8- 39P 9- 73M 4Q 1P 2W 10M 1P 5Q 1- 20P 11- 18P
  1- 43P 1R 3Y 62- 7Q 1- 1Q 1- 4Q 1- 15Q 1- 11Q 6- 59P 5- 10P 6- 1Q 3P 1- 8P 2- 2P 2- 22P 1- 7P 1- 2P 1- 5P
  1- 1T 9P 2- 2P 2- 3P 2- 1Q 6- 1P 5- 7P 2- 7P 3- 5P 11- 10a 1- 1a 2- 1a 1- 38a 1- 10a 1- 1a 2- 1a 1- 4a 1-
  10a 1- 2a 8- 2a 29- 90R 1W 1R 1- 1R 1T 1U 2W 30- 72P 8- 10P 166- 54P 2- 18P 20Q 34- 69P 11- 10P 6- 13R 19-
  56M 1U 1X 6- 10M 6- 20a 28- 26Q 1T 2- 15Q 4- 16Q 7X 185- 60T 100- 83P 12- 1P 7W 2- 1W 2- 8W 1- 2W 1- 30W
  1- 2W 2- 12W 9- 10W 70- 8U 2- 46U 2- 11U 27- 72S 8- 52S 2U 23S 1T 5S 13- 16X 57P 7- 10Y 86- 8b 88- 34a 14-
  10a 6- 9R 1- 45R 1- 14R 10- 29R 3- 32R 2- 22R 1- 14R 73- 7S 1- 2S 1- 44S 3- 1S 1- 2S 1- 9S 8- 10S 6- 6T 1-
  2T 1- 37T 1- 2T 1- 6T 7- 10T 6- 44b 4- 10b 246- 25T 7- 17Y 1- 41Y 3- 28Y 1a 85- 1W 15- 50U 13- 1U 879I 42P
  1Q 102- 99I 12P 1- 4I 1P 11- 196Q 2636- 99X 13- 1071K 1Y 9U 29Y 10- 3995a 5- 583Q 6841- 58a 1734- 569L 7-
  31P 1- 10P 4- 2P 79X 1- 10X 6- 30P 2- 6P 10- 70P 10- 10P 1- 7P 1- 21P 5- 19P 432- 58a 198- 91T 5- 25b 2-
  25b 44- 69M 6U 4- 1U 47M 9U 7- 17M 64- 1R 1S 2U 1W 11- 2W 5b 9- 6125R 5T 6U 8b 755R 483W 41- 1a 9W 22b 97-
  115b 8701- 4X 1- 7X 1- 2X 1- 2L 285S 4X 15- 1Y 29- 3U 2- 1Y 14- 4U 8- 396S 2308- 107P 5- 13P 3- 9P 7- 10P
  2- 8P 3932- 250a 3b 3- 436a 6- 23b 15- 17b 15- 46X 2- 23X 9- 116X 60- 246E 10- 39E 2- 1J 180E 11Q 2X 21-
  70H 122- 20Y 12- 20T 12- 87G 9- 18I 7T 135- 85E 1- 71E 1- 2E 2- 1E 2- 2E 2- 4E 1- 12E 1- 1E 1- 4E 1G 2E 1-
  65E 1- 4E 2- 8E 1- 7E 1- 28E 1- 4E 1- 5E 1- 1E 3- 7E 1- 338E 2H 2- 290E 2I 2- 50E 652Q 15- 5Q 1- 15Q 1104-
  31X 6- 6Y 213- 7R 1- 17R 2- 7R 1- 2R 1- 5R 5- 62Y 33- 1Y 112- 45U 3- 14U 2- 10U 4- 2U 320- 31X 17- 58U 5-
  1U 464- 42Y 214- 43a 4- 1a 192- 31b 1- 22b 8- 2b 224- 7X 1- 4X 1- 2X 1- 15X 1- 197P 2- 16P 41- 75R 1U 4-
  10R 4- 2R 785- 68T 76- 61U 194- 4M 1- 27M 1- 2M 1- 1M 2- 1M 1- 10M 1- 4M 1- 1M 1- 1M 6- 1M 4- 1M 1- 1M 1-
  1M 1- 3M 1- 2M 1- 1M 2- 1M 1- 1M 1- 1M 1- 1M 1- 1M 1- 2M 1- 1M 2- 4M 1- 7M 1- 4M 1- 4M 1- 1M 1- 10M 1- 17M
  5- 3M 1- 5M 1- 17M 52- 2M 270- 44J 4- 100J 12- 15L 2- 14L 1P 1- 15L 1- 15L 22P 10- 11K 2P 3W 31K 1T 1L 1K
  11L 1K 1L 1K 2L 1K 3L 1K 3L 5K 8L 1K 7L 1K 10L 2M 1U 3W 9L 1K 1L 2K 2L 1K 10L 4K 2L 1K 10L 18R 1W 56- 26L
  1K 2L 13- 34K 9L 1R 4- 9K 7- 2L 14- 6S 154- 33L 12P 3Q 6L 1P 70L 1P 2Q 20L 12P 37L 1P 5L 4P 5Q 12P 17L 7P
  8Q 63L 1P 1L 1P 182L 1P 4L 2P 1Q 62L 2P 4M 7P 5Q 24L 18P 1R 41P 1R 86P 5L 1M 16L 1M 3L 1M 1L 1M 1L 1M 1L
  1M 3L 1M 6L 2M 4L 1M 1L 2M 4L 1M 12L 2P 2Q 11L 48P 70L 10P 1Q 2R 2S 1U 2W 1b 3- 1Y 3X 13P 3- 4P 3R 2S 1T
  1U 2W 3- 116L 3Y 4b 5Y 85P 4T 1Y 6- 12U 4- 1X 15- 12P 4- 56P 8- 10P 6- 40P 8- 30P 2- 2W 10a 4- 2a 14- 9b
  39- 12S 1W 3U 9Q 6R 1S 8R 8S 1R 2S 12R 1U 12R 1S 3T 15R 13S 5T 1U 1W 4T 2W 1X 1T 1U 4T 5Q 13R 6S 11T 2W 6U
  3W 2U 10T 6U 1Q 2T 8U 1W 1X 3U 23S 25T 84U 4b 8- 14T 2- 4U 1W 3Y 3U 2X 3- 3U 4W 2Y 1a 1b 3- 1b 1a 6U 19W
  4X 3Y 7W 4X 3Y 1a 1Y 3W 3X 1a 1- 1b 4- 1b 2Y 7W 3X 2Y 1a 2- 1a 8X 1Y 1a 1b 4- 1b 7X 2Y 7- 147W 1- 55W 37a
  10W 1b 1027- 2B 42711E 7W 2X 32- 4149K 4X 1Y 6b 222L 2- 5762Q 12b 2- 7473S 15- 622Z 2466- 542E 1504- 2B
  4939W 5- 4192Y 4298b 52100- 2B 65534- 2B 65534- 2B 65534- 2B 65534- 2B 65534- 2B 65534- 2B 65534- 2B
  65534- 2B 65534- 2B 65534- 2B 1- 1E 30- 96E 128- 240G 65038- 131074B"

/-- The letter of the version at a place in the list of versions. -/
def versionLetter (i : Nat) : Char := if i < 26 then .ofNat ('A'.toNat + i) else .ofNat ('a'.toNat + (i - 26))

/-- The code points that had a meaning in the version at a place in the list of versions. -/
def assignedBy (i : Nat) : CharSet :=
  let letters := (List.range (i + 1)).map fun j => String.singleton (versionLetter j)
  ages.having letters.contains

/-- The code points that had a meaning in a version, if its name is the number of one, or that number behind a
    `v` with its parts joined. -/
def age? (name : Text) : Option CharSet :=
  let isName := fun (v : String) =>
    v.toList = name || 'v' :: v.toList.filter (· != '.') = name
  (versions.findIdx? isName).map assignedBy

end Property
end WikiArticle
